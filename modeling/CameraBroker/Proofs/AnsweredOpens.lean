import CameraBroker.Proofs.StaleOpens

/-! Opens that are cancelled, or answered otherwise, while they wait in the pending list. Answers
stay, and the loop comes to the opens in their order, so that such an open is stale when its turn
comes, whatever happens until then: nobody can tell whether it was there. -/
namespace CameraBroker

open Request

namespace View
variable {v w : View}

/-- New requests stand behind those that wait. -/
theorem Meanwhile.waiting {kept : HandleId → Prop} (moves : Meanwhile kept v w) :
    ∃ more, w.waiting = v.waiting ++ more := by
  refine moves.invariant (P := fun w => ∃ more, w.waiting = v.waiting ++ more) ?_
    ⟨[], (List.append_nil _).symm⟩
  rintro u w move ⟨more, waits⟩
  have arrives : ∀ r : Request, ∃ more, u.waiting ++ [r] = v.waiting ++ more :=
    fun r => ⟨more ++ [r], by rw [waits, List.append_assoc]⟩
  cases move with
  | device hx xy => exact ⟨more, waits⟩
  | refusedOpen c => exact ⟨more, waits⟩
  | «open» c share room =>
    rw [waiting_arrive]
    exact arrives _
  | close hi room =>
    rw [waiting_arrive]
    exact arrives _
  | closeAll room =>
    rw [waiting_arrive]
    exact arrives _
  | leave => exact ⟨more, waits⟩
  | beginClose hk hs gone => exact ⟨more, waits⟩
  | endClose hk hc => exact ⟨more, waits⟩

end View

/-- There are no more marks than opens. -/
theorem Thins.length_le {marks : List Bool} {rs rs' : List Request} (thins : Thins marks rs rs') :
    marks.length ≤ (opens rs).length := by
  induction thins with
  | rest rs => exact Nat.zero_le _
  | keep h share _ ih => exact Nat.succ_le_succ ih
  | drop h share _ ih => exact Nat.succ_le_succ ih
  | pass other _ ih =>
    rw [opens_other other]
    exact ih

namespace Broker
variable {b o c : Broker} {marks : List Bool} {h : HandleId}

theorem opens_filter (rs : List Request) :
    opens (rs.filter fun r => r.isClose = false) = opens rs := by
  induction rs with
  | nil => rfl
  | cons r rs ih => cases r <;> simp [opens, Request.isClose, handle?] at ih ⊢ <;> exact ih

/-- A turn of the loop is done with the first of the opens, and leaves the others. -/
theorem Reachable.opens_turn (hr : Reachable b) :
    ∃ served, opens b.waiting = served ++ opens (b.step (.turn .loop)).waiting := by
  rcases loop_turn hr.sound with stays | ⟨turns, turn⟩
  · exact ⟨[], by rw [stays]; rfl⟩
  · obtain ⟨rs, services, -⟩ := turn.rule.services hr.sound turn.follows
    rw [turns]
    cases services with
    | serve accepted serviced split crashed =>
      have parts := congrArg opens (split false)
      rw [opens_append, opens_filter, opens_filter, opens_filter] at parts
      exact ⟨opens rs, parts⟩
    | crash accepted serviced none waiting stage =>
      have empty : b.resumeLoop.waiting = [] := waiting
      exact ⟨opens b.waiting, by rw [empty, opens_nil, List.append_nil]⟩

structure Answered (marks : List Bool) (b : Broker) : Prop where
  few : marks.length ≤ (opens b.waiting).length
  resolves : ∀ (k : Nat) (h : HandleId), (opens b.waiting)[k]? = some h → marks[k]? = some true →
    b.Resolves h

namespace Answered

theorem step (answered : Answered marks b) (hr : Reachable b) {a : Action} (ha : a ≠ .turn .loop) :
    Answered marks (b.step a) := by
  have moves := (beside_step hr.sound.devicesFit ha).view
  obtain ⟨more, waits⟩ := moves.waiting
  have waiting : (b.step a).waiting = b.waiting ++ more := waits
  have grown : opens (b.step a).waiting = opens b.waiting ++ opens more := by
    rw [waiting, opens_append]
  refine ⟨?_, fun k h there marked => ?_⟩
  · rw [grown, List.length_append]
    exact Nat.le_add_right_of_le answered.few
  · obtain ⟨inside, -⟩ := List.getElem?_eq_some_iff.1 marked
    rw [grown, List.getElem?_append_left (Nat.lt_of_lt_of_le inside answered.few)] at there
    exact hr.resolves_step (answered.resolves k h there marked) a

theorem turn (answered : Answered marks b) (hr : Reachable b) :
    Answered (marksLeft marks b (b.step (.turn .loop))) (b.step (.turn .loop)) := by
  obtain ⟨served, parts⟩ := hr.opens_turn
  have left : marksLeft marks b (b.step (.turn .loop)) = marks.drop served.length :=
    marksLeft_eq (by rw [parts, List.length_append])
  rw [left]
  refine ⟨?_, fun k h there marked => ?_⟩
  · have few := answered.few
    rw [parts, List.length_append] at few
    rw [List.length_drop]
    omega
  · rw [List.getElem?_drop] at marked
    refine hr.resolves_step (answered.resolves (served.length + k) h ?_ marked) (.turn .loop)
    rw [parts, List.getElem?_append_right (Nat.le_add_right _ _), Nat.add_sub_cancel_left]
    exact there

theorem passWithin (answered : Answered marks b) (hr : Reachable b) (n : Nat) :
    Reachable (b.passWithin n) ∧
      Answered (marksLeft marks b (b.passWithin n)) (b.passWithin n) := by
  induction n generalizing b marks with
  | zero => exact ⟨hr, (marksLeft_self marks b).symm ▸ answered⟩
  | succ n ih =>
    cases drops : b.dropsStale with
    | false =>
      rw [passWithin_self drops, marksLeft_self]
      exact ⟨hr, answered⟩
    | true =>
      obtain ⟨served, parts⟩ := hr.opens_turn
      have less : (opens (b.step (.turn .loop)).waiting).length ≤ (opens b.waiting).length := by
        rw [parts, List.length_append]
        exact Nat.le_add_left _ _
      obtain ⟨reached, left⟩ := ih (answered.turn hr) (hr.step _)
      rw [passWithin_of_drops drops]
      rw [marksLeft_trans less (opens_passWithin n _)] at left
      exact ⟨reached, left⟩

/-- None of them waits when the loop comes to it. -/
theorem spared {rs more : List Request} (answered : Answered marks b)
    (front : b.waiting = rs ++ more) : Spared marks rs b := by
  have resolves : ∀ (k : Nat) (h : HandleId), (opens rs)[k]? = some h → marks[k]? = some true →
      b.Resolves h := by
    intro k h there marked
    obtain ⟨inside, -⟩ := List.getElem?_eq_some_iff.1 there
    refine answered.resolves k h ?_ marked
    rw [front, opens_append, List.getElem?_append_left inside]
    exact there
  clear answered front
  induction rs generalizing marks b with
  | nil => trivial
  | cons r rs ih =>
    have fades := b.fades_supersede r
    cases r with
    | close i => exact ih fun k h there marked => fades.resolves (resolves k h there marked)
    | closeAll => exact ih fun k h there marked => fades.resolves (resolves k h there marked)
    | «open» g share =>
      refine ⟨fun marked waits => ?_, ih fun k h there marked => ?_⟩
      · obtain ⟨x, hx, answered⟩ := resolves 0 g rfl (by rwa [← List.head?_eq_getElem?])
        obtain ⟨y, hy, unopened⟩ := waits
        cases hx.symm.trans hy
        exact answered unopened
      · refine fades.resolves (resolves (k + 1) h there ?_)
        rwa [List.getElem?_tail] at marked

end Answered

theorem comesTo_prefix (rs : List Request) : ∃ more, rs = comesTo rs ++ more := by
  unfold comesTo
  cases closes : firstClose? rs with
  | some found => exact ⟨rs, rfl⟩
  | none =>
    cases clears : lastCloseAll? rs with
    | some parts => exact ⟨parts.2, (lastCloseAll?_eq_some clears).1⟩
    | none => exact ⟨rs.drop 1, (List.take_append_drop 1 rs).symm⟩

theorem Answered.sparesAll (answered : Answered marks b) (hr : Reachable b)
    (actions : List Action) : SparesAll marks actions b := by
  induction actions generalizing marks b with
  | nil => trivial
  | cons a actions ih =>
    by_cases ha : a = .turn .loop
    · subst ha
      obtain ⟨reached, left⟩ : Reachable b.passStale ∧
          Answered (marksLeft marks b b.passStale) b.passStale := answered.passWithin hr _
      obtain ⟨served, parts⟩ := reached.opens_turn
      have less : (opens (b.passStale.step (.turn .loop)).waiting).length ≤
          (opens b.passStale.waiting).length := by
        rw [parts, List.length_append]
        exact Nat.le_add_left _ _
      have passed : (opens b.passStale.waiting).length ≤ (opens b.waiting).length :=
        opens_passWithin _ b
      have next := left.turn reached
      rw [marksLeft_trans passed less] at next
      refine ⟨fun _ _ => ?_, ?_⟩
      · obtain ⟨more, front⟩ := comesTo_prefix b.passStale.waiting
        exact left.spared front
      · rw [if_pos rfl, stride_turn]
        exact ih next (reached.step _)
    · refine ⟨fun same => absurd same ha, ?_⟩
      rw [if_neg ha, stride_other ha]
      exact ih (answered.step hr ha) (hr.step a)

/-- Opens whose handles have their answers can be taken out of the pending list, and nobody can tell
whatever happens. -/
theorem Reachable.answered_opens_invisible (hr : Reachable b) {rest : List Request}
    (taken : Thins marks b.loop.pending rest)
    (answered : ∀ (k : Nat) (h : HandleId), (opens b.loop.pending)[k]? = some h →
      marks[k]? = some true → b.Resolves h)
    (inFlight : b.loop.stage.opens? ≠ none → marks.head? ≠ some true) (actions : List Action) :
    ((b.setPending rest).strides actions).shown = (b.strides actions).shown := by
  have few := taken.length_le
  have settled : Answered marks b := by
    refine ⟨?_, fun k h there marked => answered k h ?_ marked⟩
    · rw [waiting, opens_append, List.length_append]
      exact Nat.le_add_right_of_le few
    · obtain ⟨inside, -⟩ := List.getElem?_eq_some_iff.1 marked
      rwa [waiting, opens_append,
        List.getElem?_append_left (Nat.lt_of_lt_of_le inside few)] at there
  exact (Tracks.start taken inFlight).strides (settled.sparesAll hr actions)

/-- An open is cancelled while the one before it is under way, and then a close-all comes. -/
theorem answered_opens_invisible_cancelled :
    let b := byHand [.turn .loop, .open front true, .open back false, .turn .loop, .disconnect 1]
    let actions : List Action := [.turn .loop, .closeAll, .turn .loop, .turn (.close 0)]
    b.loop.pending = [.open 0 true, .open 1 false] ∧
      (opens b.loop.pending)[1]? = some 1 ∧ b.Resolves 1 ∧
      (b.strides actions).handles.map (·.state) = [.disconnected, .disconnected] ∧
      ((b.setPending [.open 0 true]).strides actions).shown = (b.strides actions).shown := by
  intro b actions
  have pending : b.loop.pending = [.open 0 true, .open 1 false] := by decide
  have taken : Thins [false, true] b.loop.pending [.open 0 true] := by
    rw [pending]
    exact .keep 0 true (.drop 1 false (.rest _))
  have state : (b.handles[1]?).map (·.state) = some .disconnected := by decide
  obtain ⟨x, hx, disconnected⟩ := Option.map_eq_some_iff.1 state
  have cancelled : b.Resolves 1 := ⟨x, hx, by simp [disconnected]⟩
  have answered : ∀ (k : Nat) (h : HandleId), (opens b.loop.pending)[k]? = some h →
      [false, true][k]? = some true → b.Resolves h := by
    rintro (_ | _ | k) h there marked
    · cases marked
    · obtain rfl : 1 = h := by simpa [pending, opens, handle?] using there
      exact cancelled
    · cases marked
  have inFlight : b.loop.stage.opens? ≠ none → [false, true].head? ≠ some true := by decide
  exact ⟨pending, by decide, cancelled, by decide,
    (Reachable.byHand _).answered_opens_invisible taken answered inFlight actions⟩

end Broker

end CameraBroker
