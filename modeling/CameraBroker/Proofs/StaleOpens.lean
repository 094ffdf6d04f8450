import CameraBroker.Proofs.Alike

/-! Opens whose handles wait no more when the loop comes to them can be taken out of the pending list,
and nobody can tell. Two loops run side by side, of which one lacks such opens. The loop that has
them drops them on its way, which waits for nothing and takes no time; apart from that both do the
same. -/
namespace CameraBroker

open Request

namespace Thins
variable {marks : List Bool} {rs rs' : List Request}

/-- If what is left asks for no close, neither does the whole list, and the same open comes first. -/
theorem round (thins : Thins marks rs rs')
    (kept : ∀ h share, Broker.comesTo rs = [.open h share] → marks.head? ≠ some true)
    (closes : Broker.firstClose? rs' = none) (clears : Broker.lastCloseAll? rs' = none) :
    rs = [] ∧ rs' = [] ∨ ∃ h share rest rest', rs = .open h share :: rest ∧
      rs' = .open h share :: rest' ∧ Broker.comesTo rs = [.open h share] := by
  have closes' : Broker.firstClose? rs = none := by
    cases found : Broker.firstClose? rs with
    | none => rfl
    | some parts =>
      obtain ⟨rest', some, -⟩ := thins.firstClose?_some (i := parts.1) found
      cases closes.symm.trans some
  have clears' : Broker.lastCloseAll? rs = none := by
    cases found : Broker.lastCloseAll? rs with
    | none => rfl
    | some parts =>
      obtain ⟨before', after', some, -⟩ := thins.lastCloseAll?_some found
      cases clears.symm.trans some
  cases rs with
  | nil => exact .inl ⟨rfl, thins.nil⟩
  | cons r rest =>
    obtain ⟨h, share, rfl⟩ := Broker.exists_open_of_none closes' clears'
    have comes : Broker.comesTo (.open h share :: rest) = [.open h share] := by
      unfold Broker.comesTo
      rw [closes', clears']
      rfl
    obtain ⟨rest', left, -⟩ := thins.head (.inr (kept h share comes))
    exact .inr ⟨h, share, rest, rest', rfl, left, comes⟩

end Thins

namespace Broker
variable {b b' o o' c c' : Broker} {marks : List Bool} {h : HandleId} {share : Bool}
  {rest : List Request}

instance (b : Broker) (h : HandleId) : Decidable (b.Waits h) :=
  decidable_of_iff ((b.handles[h]?).any fun y => y.state = .unopened) (by
    simp [Waits, Option.any_eq_true])

def dropsStale (b : Broker) : Bool :=
  b.loop.stage = .reading && match comesTo b.waiting with
    | [.open h _] => !decide (b.Waits h)
    | _ => false

/-- The loop drops stale opens while there is one in front, but at most so many. -/
def passWithin : Nat → Broker → Broker
  | 0, b => b
  | n + 1, b => if b.dropsStale then passWithin n (b.step (.turn .loop)) else b

def passStale (b : Broker) : Broker := b.passWithin b.waiting.length

/-- The broker after an action. The loop waits for nothing when it drops an open, and so it drops
all that are in front in the same turn as it goes through the round behind them. -/
def stride (b : Broker) (a : Action) : Broker :=
  if a = .turn .loop then b.passStale.step a else b.step a

def strides (actions : List Action) (b : Broker) : Broker := actions.foldl stride b

theorem stride_turn (b : Broker) : b.stride (.turn .loop) = b.passStale.step (.turn .loop) :=
  if_pos rfl

theorem stride_other {a : Action} (ha : a ≠ .turn .loop) (b : Broker) : b.stride a = b.step a :=
  if_neg ha

@[simp] theorem strides_cons (a : Action) (actions : List Action) (b : Broker) :
    b.strides (a :: actions) = (b.stride a).strides actions := rfl

def marksLeft (marks : List Bool) (b o : Broker) : List Bool :=
  marks.drop ((opens b.waiting).length - (opens o.waiting).length)

theorem marksLeft_eq {n : Nat} (left : (opens b.waiting).length = n + (opens o.waiting).length) :
    marksLeft marks b o = marks.drop n := by
  rw [marksLeft, left, Nat.add_sub_cancel]

@[simp] theorem marksLeft_self (marks : List Bool) (b : Broker) : marksLeft marks b b = marks := by
  rw [marksLeft, Nat.sub_self, List.drop_zero]

theorem marksLeft_trans (less : (opens o.waiting).length ≤ (opens b.waiting).length)
    (fewer : (opens c.waiting).length ≤ (opens o.waiting).length) :
    marksLeft (marksLeft marks b o) o c = marksLeft marks b c := by
  rw [marksLeft, marksLeft, marksLeft, List.drop_drop]
  congr 1
  omega

/-- No marked open waits when the loop comes to it in its next turn. -/
def SparesTurn (marks : List Bool) (b : Broker) : Prop :=
  b.loop.stage = .reading →
    Spared (marksLeft marks b b.passStale) (comesTo b.passStale.waiting) b.passStale

/-- No marked open waits when the loop comes to it, as long as these actions last. -/
def SparesAll : List Bool → List Action → Broker → Prop
  | _, [], _ => True
  | marks, a :: actions, b => (a = .turn .loop → b.SparesTurn marks) ∧
    SparesAll (if a = .turn .loop then marksLeft marks b (b.stride a) else marks) actions
      (b.stride a)

instance decidableSpared : ∀ (marks : List Bool) (rs : List Request) (b : Broker),
    Decidable (Spared marks rs b)
  | _, [], _ => isTrue trivial
  | marks, .open h share :: rs, b =>
    @instDecidableAnd _ _ _ (decidableSpared marks.tail rs (b.supersede (.open h share)))
  | marks, .close i :: rs, b => decidableSpared marks rs (b.supersede (.close i))
  | marks, .closeAll :: rs, b => decidableSpared marks rs (b.supersede .closeAll)

instance (marks : List Bool) (b : Broker) : Decidable (b.SparesTurn marks) :=
  inferInstanceAs (Decidable (b.loop.stage = .reading →
    Spared (marksLeft marks b b.passStale) (comesTo b.passStale.waiting) b.passStale))

instance decidableSparesAll : ∀ (marks : List Bool) (actions : List Action) (b : Broker),
    Decidable (SparesAll marks actions b)
  | _, [], _ => isTrue trivial
  | _, a :: actions, b => @instDecidableAnd _ _ _ (decidableSparesAll _ actions (b.stride a))

/-! Dropping a stale open. -/

section Dropping

theorem stage_takeIn (b : Broker) : b.takeIn.loop.stage = b.loop.stage := rfl

theorem setStage_self {stage : LoopStage} (same : o.loop.stage = stage) : o.setStage stage = o := by
  subst same
  rfl

theorem shown_popHead (pending : o.loop.pending = .open h share :: rest) :
    o.popHead.shown = o.shown ∧ o.popHead.loop.pending = rest := by
  have pops : o.popHead = (o.setPending rest).serviced (.open h share) := by
    simp [popHead, pending]
  have shows : (o.setPending rest).shown = o.shown := by
    simp [shown, setPending, onLoop, pending, Request.isClose]
  rw [pops, serviced, shown_emit_hidden _ rfl]
  exact ⟨shows, rfl⟩

theorem shown_takeIn (empty : o.inbox.buffer = []) :
    o.takeIn.shown = o.shown ∧ o.takeIn.loop.pending = o.loop.pending := by
  have waits : o.waiting = o.loop.pending := by rw [waiting, empty, List.append_nil]
  have still : { o with inbox := { o.inbox with buffer := [] } } = o := by rw [← empty]
  unfold takeIn
  rw [shown_emit_hidden _ rfl, still, waits]
  exact ⟨rfl, rfl⟩

/-- The loop of `b` took in its inbox and dropped the open in front. -/
structure Skips (b : Broker) (h : HandleId) (share : Bool) (rest : List Request) : Prop where
  reading : b.loop.stage = .reading
  comes : comesTo b.waiting = [.open h share]
  head : b.waiting = .open h share :: rest
  stale : ¬b.Waits h
  shown : (b.step (.turn .loop)).takeIn.shown = b.takeIn.shown
  pending : (b.step (.turn .loop)).takeIn.loop.pending = rest

/-- A loop that finds requests takes them in and goes through a round. -/
theorem step_of_waiting (reading : b.loop.stage = .reading) (some : b.waiting ≠ []) :
    b.step (.turn .loop) = b.takeIn.serve := by
  obtain ⟨r, rest, head⟩ := List.exists_cons_of_ne_nil some
  rw [step_loop (loopReady_of_waiting reading some), resumeLoop_of_waiting reading head]

theorem dropsStale_iff : b.dropsStale = true ↔ b.loop.stage = .reading ∧
    ∃ h share, comesTo b.waiting = [.open h share] ∧ ¬b.Waits h := by
  simp only [dropsStale, Bool.and_eq_true, decide_eq_true_eq]
  refine and_congr_right fun _ => ?_
  split
  · rename_i g share comes
    simp [comes]
  · rename_i other
    simp only [Bool.false_eq_true, false_iff]
    rintro ⟨h, share, comes, -⟩
    exact other h share comes

theorem Skips.of_dropsStale (drops : b.dropsStale = true) :
    ∃ h share rest, b.Skips h share rest := by
  obtain ⟨reading, h, share, comes, stale⟩ := dropsStale_iff.1 drops
  obtain ⟨closes, clears, rest, head⟩ := comesTo_open comes
  have pending : b.takeIn.loop.pending = .open h share :: rest := head
  have stage : b.takeIn.loop.stage = .reading := reading
  -- The open is dropped with a line in the log, or silently when there is no such handle.
  obtain ⟨told, shows, loop, next⟩ : ∃ told : Broker, told.shown = b.takeIn.shown ∧
      told.loop = b.takeIn.loop ∧ b.takeIn.serve = told.popHead.setStage .reading := by
    have serves : b.takeIn.serve = b.takeIn.serveOpen h share := by
      have closes' : firstClose? b.takeIn.loop.pending = none := closes
      have clears' : lastCloseAll? b.takeIn.loop.pending = none := clears
      rw [serve, closes', clears', pending]
    rw [serves]
    unfold serveOpen
    cases hx : b.takeIn.handles[h]? with
    | none => exact ⟨b.takeIn, rfl, rfl, rfl⟩
    | some x =>
      have answered : x.state ≠ .unopened := fun waits => stale ⟨x, hx, waits⟩
      dsimp only
      rw [if_pos answered]
      exact ⟨_, shown_emit_hidden _ rfl, rfl, rfl⟩
  obtain ⟨popped, left⟩ := shown_popHead (loop ▸ pending)
  have same : told.popHead.shown = b.takeIn.shown := popped.trans shows
  have still : told.popHead.loop.stage = .reading :=
    (congrArg (·.loop.stage) same).trans stage
  have empty : told.popHead.inbox.buffer = [] := congrArg (·.inbox.buffer) same
  have some : b.waiting ≠ [] := by simp [head]
  have step : b.step (.turn .loop) = told.popHead := by
    rw [step_of_waiting reading some, next, setStage_self still]
  obtain ⟨taken, loop⟩ := shown_takeIn empty
  exact ⟨h, share, rest, reading, comes, head, stale, by rw [step, taken, same],
    by rw [step, loop, left]⟩

theorem Skips.waiting (drops : b.Skips h share rest) : (b.step (.turn .loop)).waiting = rest :=
  drops.pending

theorem Skips.stage (drops : b.Skips h share rest) :
    (b.step (.turn .loop)).loop.stage = .reading := by
  rw [← stage_takeIn, ← shown_stage, drops.shown, shown_stage, stage_takeIn, drops.reading]

theorem passWithin_of_drops (drops : b.dropsStale = true) (n : Nat) :
    b.passWithin (n + 1) = (b.step (.turn .loop)).passWithin n := if_pos drops

theorem passWithin_self (fresh : b.dropsStale = false) (n : Nat) : b.passWithin n = b := by
  cases n with
  | zero => rfl
  | succ n => exact if_neg (by simp [fresh])

theorem waits_of_handles (same : b'.handles = b.handles) : b'.Waits h ↔ b.Waits h := by
  unfold Waits
  rw [same]

/-- When one loop drops an open, the other one has not got it, or drops it as well. -/
theorem alike_drop (alike : Alike marks b.takeIn b'.takeIn) (drops : b.Skips h share rest) {n : Nat}
    (room : b'.waiting.length ≤ n) : ∃ (o' : Broker) (k : Nat),
      Alike (marks.drop 1) (b.step (.turn .loop)).takeIn o'.takeIn ∧
        o'.waiting.length ≤ k ∧ b'.passWithin n = o'.passWithin k := by
  have thins : Thins marks (.open h share :: rest) b'.waiting := drops.head ▸ alike.thins
  by_cases marked : marks.head? = some true
  · refine ⟨b', n, ⟨alike.shown.trans drops.shown.symm, ?_⟩, room, rfl⟩
    rw [drops.pending]
    exact thins.of_marked marked
  · obtain ⟨rest', head', left⟩ := thins.head (.inr marked)
    obtain ⟨closes, clears, -⟩ := comesTo_open drops.comes
    have comes' : comesTo b'.waiting = [.open h share] := by
      unfold comesTo
      have whole : Thins marks b.waiting b'.waiting := alike.thins
      rw [whole.firstClose?_none closes, whole.lastCloseAll?_none clears, head']
      rfl
    have stale' : ¬b'.Waits h := fun waits => drops.stale ((waits_of_handles alike.handles).1 waits)
    have drops' : b'.dropsStale = true :=
      dropsStale_iff.2 ⟨alike.stage.trans drops.reading, h, share, comes', stale'⟩
    obtain ⟨g, share', others, dropped⟩ := Skips.of_dropsStale drops'
    obtain ⟨-, rfl⟩ := List.cons.inj (dropped.head.symm.trans head')
    cases n with
    | zero => simp [head'] at room
    | succ n =>
      refine ⟨b'.step (.turn .loop), n, ⟨?_, ?_⟩, ?_, passWithin_of_drops drops' n⟩
      · rw [dropped.shown, alike.shown, drops.shown]
      · rw [dropped.pending, drops.pending]
        exact left
      · rw [dropped.waiting]
        rw [head'] at room
        exact Nat.le_of_succ_le_succ room

/-- Dropping opens leaves no more of them. -/
theorem opens_passWithin (n : Nat) (b : Broker) :
    (opens (b.passWithin n).waiting).length ≤ (opens b.waiting).length := by
  induction n generalizing b with
  | zero => exact Nat.le_refl _
  | succ n ih =>
    cases drops : b.dropsStale with
    | false => exact Nat.le_of_eq (by rw [passWithin_self drops])
    | true =>
      obtain ⟨h, share, rest, dropped⟩ := Skips.of_dropsStale drops
      have fewer : (opens (b.step (.turn .loop)).waiting).length ≤ (opens b.waiting).length := by
        rw [dropped.waiting, dropped.head]
        exact Nat.le_succ _
      rw [passWithin_of_drops drops]
      exact Nat.le_trans (ih (b.step (.turn .loop))) fewer

/-- The loop of `b` has dropped the stale opens in front and come to `c`, and beside it another loop
to `c'`. -/
structure Passed (marks : List Bool) (b c c' : Broker) : Prop where
  reading : c.loop.stage = .reading
  fresh : c.dropsStale = false
  alike : Alike (marksLeft marks b c) c.takeIn c'.takeIn

/-- Where one loop has no stale open in front, neither has the other. -/
theorem Alike.passed (alike : Alike marks b.takeIn b'.takeIn) (reading : b.loop.stage = .reading)
    (fresh : b.dropsStale = false) (spared : Spared marks (comesTo b.waiting) b) (n : Nat) :
    Passed marks b b (b'.passWithin n) := by
  have thins : Thins marks b.waiting b'.waiting := alike.thins
  have kept : ∀ h share, comesTo b.waiting = [.open h share] → marks.head? ≠ some true := by
    intro h share comes marked
    rw [comes] at spared
    have drops : b.dropsStale = true := dropsStale_iff.2 ⟨reading, h, share, comes, spared.1 marked⟩
    cases fresh.symm.trans drops
  have fresh' : b'.dropsStale = false := by
    by_contra drops
    obtain ⟨-, h, share, comes', stale'⟩ := dropsStale_iff.1 (by simpa using drops)
    obtain ⟨closes', clears', rest', head'⟩ := comesTo_open comes'
    rcases thins.round kept closes' clears' with
      ⟨-, none⟩ | ⟨g, share', rest, others, -, head, comes⟩
    · cases none.symm.trans head'
    · obtain ⟨same, -⟩ := List.cons.inj (head.symm.trans head')
      obtain ⟨rfl, rfl⟩ := Request.open.inj same
      have stale : ¬b.Waits g := fun waits => stale' ((waits_of_handles alike.handles).2 waits)
      cases fresh.symm.trans (dropsStale_iff.2 ⟨reading, g, share', comes, stale⟩)
  rw [passWithin_self fresh']
  exact ⟨reading, fresh, (marksLeft_self marks b).symm ▸ alike⟩

/-- Both loops drop the stale opens in front, of which the second has only some. -/
theorem passed_passWithin {n n' : Nat} (alike : Alike marks b.takeIn b'.takeIn)
    (reading : b.loop.stage = .reading) (room : b.waiting.length ≤ n)
    (room' : b'.waiting.length ≤ n') (spared : Spared (marksLeft marks b (b.passWithin n))
      (comesTo (b.passWithin n).waiting) (b.passWithin n)) :
    Passed marks b (b.passWithin n) (b'.passWithin n') := by
  induction n generalizing b b' n' marks with
  | zero =>
    have none : b.waiting = [] := List.length_eq_zero_iff.1 (Nat.le_zero.1 room)
    have fresh : b.dropsStale = false := by
      simp [dropsStale, none, comesTo, firstClose?, lastCloseAll?]
    exact alike.passed reading fresh (by rw [none]; trivial) n'
  | succ n ih =>
    cases drops : b.dropsStale with
    | false =>
      rw [passWithin_self drops] at spared ⊢
      exact alike.passed reading drops (by simpa using spared) n'
    | true =>
      obtain ⟨h, share, rest, dropped⟩ := Skips.of_dropsStale drops
      obtain ⟨o', k', next, room', same⟩ := alike_drop alike dropped room'
      rw [passWithin_of_drops drops] at spared ⊢
      have fewer : (b.step (.turn .loop)).waiting.length ≤ n := by
        rw [dropped.waiting]
        rw [dropped.head] at room
        exact Nat.le_of_succ_le_succ room
      have count : (opens b.waiting).length =
          1 + (opens (b.step (.turn .loop)).waiting).length := by
        rw [dropped.head, dropped.waiting, Nat.add_comm]
        rfl
      have left : marksLeft marks b ((b.step (.turn .loop)).passWithin n) =
          marksLeft (marks.drop 1) (b.step (.turn .loop))
            ((b.step (.turn .loop)).passWithin n) := by
        rw [← marksLeft_eq count, marksLeft_trans (by omega) (opens_passWithin n _)]
      rw [left] at spared
      obtain ⟨stage, fresh, passed⟩ := ih next dropped.stage fewer room' spared
      exact ⟨stage, fresh, by rwa [same, left]⟩

end Dropping

/-! Turns of both loops. -/

section Turns

/-- The second broker shows what the first one shows. It lacks the marked opens, none of which is in
flight. -/
structure Tracks (marks : List Bool) (b b' : Broker) : Prop where
  shown : b'.shown = b.shown
  thins : b.isLoopOver = false → Thins marks b.loop.pending b'.loop.pending
  inFlight : b.loop.stage.opens? ≠ none → marks.head? ≠ some true

theorem Together.tracks (together : Together marks b o o') :
    Tracks (marksLeft marks b o) o o' := by
  cases together with
  | ends stage shown =>
    refine ⟨shown, fun running => ?_, fun opening => ?_⟩
    · cases running.symm.trans stage
    · have halted : o.loop.stage = .stopped ∨ o.loop.stage = .crashed := by
        simpa [isLoopOver] using stage
      rcases halted with halted | halted <;> simp [halted, LoopStage.opens?] at opening
  | goesOn n alike left inFlight =>
    rw [marksLeft_eq left]
    exact ⟨alike.shown, fun _ => alike.thins, inFlight⟩

namespace Tracks

theorem start {rest : List Request} (taken : Thins marks b.loop.pending rest)
    (inFlight : b.loop.stage.opens? ≠ none → marks.head? ≠ some true) :
    Tracks marks b (b.setPending rest) := by
  have shows : (b.setPending rest).shown = b.shown.setPending (rest.filter Request.isClose) := rfl
  refine ⟨?_, fun _ => taken, inFlight⟩
  rw [shows, taken.filter_isClose]
  rfl

theorem alike (tracks : Tracks marks b b') (running : b.isLoopOver = false) : Alike marks b b' :=
  ⟨tracks.shown, tracks.thins running⟩

theorem step (tracks : Tracks marks b b') {a : Action} (ha : a ≠ .turn .loop) :
    Tracks marks (b.step a) (b'.step a) := by
  have loop : (b.step a).loop = b.loop := (Apart.step ha b).loop
  have loop' : (b'.step a).loop = b'.loop := (Apart.step ha b').loop
  refine ⟨?_, fun running => ?_, fun opening => tracks.inFlight ?_⟩
  · rw [shown_step _ ha, shown_step _ ha, tracks.shown]
  · rw [loop, loop']
    refine tracks.thins ?_
    unfold isLoopOver at running ⊢
    rwa [loop] at running
  · rwa [loop] at opening

/-- Loops that do not wait for requests are ready at the same time. -/
theorem loopReady (tracks : Tracks marks b b') (busy : b.loop.stage ≠ .reading) :
    b'.loopReady = b.loopReady := by
  have stage : b'.loop.stage = b.loop.stage := congrArg (·.loop.stage) tracks.shown
  have now : b'.now = b.now := congrArg (·.now) tracks.shown
  have gone : b'.isSessionGone = b.isSessionGone := by
    funext i
    rw [← b'.isSessionGone_shown, tracks.shown, isSessionGone_shown]
  unfold Broker.loopReady
  rw [stage, now, gone]
  cases h : b.loop.stage with
  | reading => exact absurd h busy
  | _ => rfl

/-- Loops that do not wait for requests do the same in their next turn. -/
theorem resume (tracks : Tracks marks b b') (busy : b.loop.stage ≠ .reading) :
    Together marks b b.resumeLoop b'.resumeLoop := by
  have stage' : b'.loop.stage = b.loop.stage := congrArg (·.loop.stage) tracks.shown
  unfold resumeLoop
  rw [stage']
  cases stage : b.loop.stage with
  | reading => exact absurd stage busy
  | fresh =>
    have alike := tracks.alike (by simp [isLoopOver, stage])
    have told : Alike marks (b.emit .loopStarted) (b'.emit .loopStarted) := alike.emit rfl
    exact (told.setStage .reading).together rfl (absurd rfl)
  | «opening» h call =>
    have alike := tracks.alike (by simp [isLoopOver, stage])
    exact together_resumeOpening alike (tracks.inFlight (by simp [stage, LoopStage.opens?])) h call
  | closing sessions left after =>
    have alike := tracks.alike (by simp [isLoopOver, stage])
    exact together_awaitClosed alike sessions left after
  | stopped => exact .ends (by simp [isLoopOver, stage]) tracks.shown
  | crashed => exact .ends (by simp [isLoopOver, stage]) tracks.shown

theorem turn_busy (tracks : Tracks marks b b') (busy : b.loop.stage ≠ .reading) :
    Together marks b (b.step (.turn .loop)) (b'.step (.turn .loop)) := by
  have same := tracks.loopReady busy
  cases ready : b.loopReady with
  | true =>
    rw [step_loop ready, step_loop (same.trans ready)]
    exact tracks.resume busy
  | false =>
    rw [step_loop_idle ready, step_loop_idle (same.trans ready)]
    cases halted : b.isLoopOver with
    | true => exact .ends halted tracks.shown
    | false => exact (tracks.alike halted).together rfl tracks.inFlight

theorem takeIn (tracks : Tracks marks b b') (reading : b.loop.stage = .reading) :
    Alike marks b.takeIn b'.takeIn := by
  have alike := tracks.alike (by simp [isLoopOver, reading])
  have emptied : Alike marks { b with inbox := { b.inbox with buffer := [] } }
      { b' with inbox := { b'.inbox with buffer := [] } } :=
    alike.after (f := fun b => { b with inbox := { b.inbox with buffer := [] } })
      (fun _ => rfl) fun _ => rfl
  have thins : Thins marks b.waiting b'.waiting := by
    rw [waiting, waiting, alike.inbox]
    exact alike.thins.append b.inbox.buffer
  exact (emptied.setPending thins).note rfl rfl

end Tracks

theorem step_of_nothing (reading : c.loop.stage = .reading) (none : c.waiting = []) :
    c.step (.turn .loop) = if c.inbox.producers = 0 then c.finish else c := by
  obtain ⟨pending, buffer⟩ := List.append_eq_nil_iff.1 none
  by_cases alone : c.inbox.producers = 0
  · have ready : c.loopReady = true := by simp [loopReady, reading, alone]
    rw [step_loop ready, if_pos alone]
    unfold resumeLoop read
    rw [reading]
    dsimp only
    rw [pending, buffer]
    exact if_pos alone
  · have idle : c.loopReady = false := by simp [loopReady, reading, pending, buffer, alone]
    rw [step_loop_idle idle, if_neg alone]

theorem together_finish (alike : Alike marks o o') : Together marks o o.finish o'.finish := by
  unfold finish
  rw [alike.active]
  split
  · refine .ends rfl ?_
    rw [shown_stopLoop, shown_stopLoop, alike.shown]
  · have told : Alike marks (o.emit (.stopping o.loop.active.length))
        (o'.emit (.stopping o.loop.active.length)) := alike.emit rfl
    exact (together_closeSessions (told.setActive []) _ .stop).base rfl

/-- Loops that wait for requests, and have no stale open in front, do the same in their next turn. -/
theorem Passed.turn (passed : Passed marks b c c')
    (spared : Spared (marksLeft marks b c) (comesTo c.waiting) c) :
    Together (marksLeft marks b c) c (c.step (.turn .loop)) (c'.step (.turn .loop)) := by
  obtain ⟨reading, fresh, alike⟩ := passed
  have thins : Thins (marksLeft marks b c) c.waiting c'.waiting := alike.thins
  have reading' : c'.loop.stage = .reading := alike.stage.trans reading
  have waits : ∀ h share, comesTo c.waiting = [.open h share] → c.Waits h := by
    intro h share comes
    by_contra stale
    cases fresh.symm.trans (dropsStale_iff.2 ⟨reading, h, share, comes, stale⟩)
  by_cases none : c.waiting = []
  · have none' : c'.waiting = [] := (none ▸ thins).nil
    obtain ⟨shows, loop⟩ := shown_takeIn (List.append_eq_nil_iff.1 none).2
    obtain ⟨shows', loop'⟩ := shown_takeIn (List.append_eq_nil_iff.1 none').2
    have still : Alike (marksLeft marks b c) c c' :=
      ⟨shows' ▸ shows ▸ alike.shown, loop' ▸ loop ▸ alike.thins⟩
    rw [step_of_nothing reading none, step_of_nothing reading' none', still.inbox]
    split
    · exact together_finish still
    · exact still.together rfl (by simp [reading, LoopStage.opens?])
  · have some' : c'.waiting ≠ [] := by
      intro none'
      have kept : ∀ h share, comesTo c.waiting = [.open h share] →
          (marksLeft marks b c).head? ≠ some true := by
        intro h share comes marked
        rw [comes] at spared
        exact spared.1 marked (waits h share comes)
      rcases thins.round kept (by rw [none']; rfl) (by rw [none']; rfl) with
        ⟨empty, -⟩ | ⟨h, share, rest, rest', -, head', -⟩
      · exact none empty
      · cases none'.symm.trans head'
    have same : c.takeIn.handles = c.handles := rfl
    have spared' : Spared (marksLeft marks b c) (comesTo c.waiting) c.takeIn := by
      simpa using spared.take same (marksLeft marks b c).length
    have whole : c.takeIn.waiting = c.waiting := List.append_nil c.waiting
    rw [step_of_waiting reading none, step_of_waiting reading' some']
    have served : Together (marksLeft marks b c) c.takeIn c.takeIn.serve c'.takeIn.serve :=
      together_serve alike none waits spared'
    exact served.base (by rw [whole])

theorem passStale_of_busy (busy : b.loop.stage ≠ .reading) : b.passStale = b :=
  passWithin_self (by simp [dropsStale, busy]) _

/-- Where the marks spare all that waits, a turn leads from brokers that show the same to such. -/
theorem Tracks.turn (tracks : Tracks marks b b') (spares : b.SparesTurn marks) :
    Tracks (marksLeft marks b (b.stride (.turn .loop))) (b.stride (.turn .loop))
      (b'.stride (.turn .loop)) := by
  rw [stride_turn, stride_turn]
  by_cases reading : b.loop.stage = .reading
  · have spared := spares reading
    have passed : Passed marks b b.passStale b'.passStale :=
      passed_passWithin (tracks.takeIn reading) reading (Nat.le_refl _) (Nat.le_refl _) spared
    have fewer := opens_passWithin b.waiting.length b
    exact ((passed.turn spared).shift (Nat.sub_add_cancel fewer).symm).tracks
  · have stage' : b'.loop.stage = b.loop.stage := congrArg (·.loop.stage) tracks.shown
    rw [passStale_of_busy reading, passStale_of_busy (stage' ▸ reading)]
    exact (tracks.turn_busy reading).tracks

/-- All along the actions, the brokers show the same. -/
theorem Tracks.strides (tracks : Tracks marks b b') {actions : List Action}
    (spared : SparesAll marks actions b) :
    (b'.strides actions).shown = (b.strides actions).shown := by
  induction actions generalizing marks b b' with
  | nil => exact tracks.shown
  | cons a actions ih =>
    obtain ⟨now, later⟩ := spared
    rw [strides_cons, strides_cons]
    by_cases ha : a = .turn .loop
    · subst ha
      rw [if_pos rfl] at later
      exact ih (tracks.turn (now rfl)) later
    · rw [if_neg ha] at later
      refine ih ?_ later
      rw [stride_other ha, stride_other ha]
      exact tracks.step ha

end Turns

/-! What is taken out of the pending list is not missed. -/

section Invisible

theorem passWithin_run (n : Nat) (b : Broker) :
    ∃ k, b.passWithin n = b.run (List.replicate k (.turn .loop)) := by
  induction n generalizing b with
  | zero => exact ⟨0, rfl⟩
  | succ n ih =>
    cases drops : b.dropsStale with
    | false => exact ⟨0, passWithin_self drops (n + 1)⟩
    | true =>
      obtain ⟨k, same⟩ := ih (b.step (.turn .loop))
      exact ⟨k + 1, by rw [passWithin_of_drops drops, same, List.replicate_succ, run_cons]⟩

/-- Strides are a run, in which the loop has its turns in a row when it drops stale opens. -/
theorem strides_run (actions : List Action) (b : Broker) : ∃ more, b.strides actions = b.run more ∧
    more.filter (· ≠ .turn .loop) = actions.filter (· ≠ .turn .loop) := by
  induction actions generalizing b with
  | nil => exact ⟨[], rfl, rfl⟩
  | cons a actions ih =>
    obtain ⟨more, same, others⟩ := ih (b.stride a)
    rw [strides_cons, same]
    by_cases ha : a = .turn .loop
    · subst ha
      obtain ⟨k, passed⟩ := passWithin_run b.waiting.length b
      refine ⟨List.replicate k (.turn .loop) ++ .turn .loop :: more, ?_, ?_⟩
      · rw [run_append, run_cons, ← passed, stride_turn, passStale]
      · simpa using others
    · refine ⟨a :: more, ?_, ?_⟩
      · rw [run_cons, stride_other ha]
      · rw [List.filter_cons, List.filter_cons, others]

theorem SparesAll.part {before after : List Action} (spared : SparesAll marks (before ++ after) b) :
    SparesAll marks before b := by
  induction before generalizing marks b with
  | nil => trivial
  | cons a before ih => exact ⟨spared.1, ih spared.2⟩

/-- Brokers that show the same log the same, but for what is logged for debugging. -/
theorem lines_of_shown (same : b'.shown = b.shown) (n : Names) {level : Level}
    (above : level ≠ .debug) : b'.hw.history.filterMap (Event.line? n level) =
      b.hw.history.filterMap (Event.line? n level) := by
  have visible : ∀ history : List Event, history.filterMap (Event.line? n level) =
      (history.filter Event.isShown).filterMap (Event.line? n level) := by
    intro history
    rw [List.filterMap_filter]
    congr 1
    funext e
    cases shown : e.isShown with
    | true => rfl
    | false => exact Event.line?_of_not_shown shown above
  have history : b'.hw.history.filter Event.isShown = b.hw.history.filter Event.isShown :=
    congrArg (·.hw.history) same
  rw [visible, history, ← visible]

/-- Opens whose handles wait no more when the loop comes to them can be taken out of the pending
list: at every instant of a run all but the pending opens is what it would have been with them. The
handles and sessions, the active set, the clock, and the history of calls, closes and answers are the
same; only what is logged for debugging differs. -/
theorem stale_opens_invisible {rest : List Request} (taken : Thins marks b.loop.pending rest)
    (inFlight : b.loop.stage.opens? ≠ none → marks.head? ≠ some true) {actions : List Action}
    (spared : SparesAll marks actions b) {before after : List Action}
    (parts : actions = before ++ after) :
    ((b.setPending rest).strides before).shown = (b.strides before).shown ∧
      ∀ (n : Names) (level : Level), level ≠ .debug →
        ((b.setPending rest).strides before).hw.history.filterMap (Event.line? n level) =
          (b.strides before).hw.history.filterMap (Event.line? n level) := by
  have same := (Tracks.start taken inFlight).strides (parts ▸ spared).part
  exact ⟨same, fun n level above => lines_of_shown same n above⟩

/-- Between two opens of one camera stands a given up one of another camera, which would have had the
first closed. -/
theorem stale_opens_invisible_between :
    let b := byHand [.turn .loop, .open front true, .open back false, .open front true, .turn .loop,
      .disconnect 1]
    let turns : List Action := [.turn .loop, .turn .loop, .turn .loop]
    b.loop.pending = [.open 0 true, .open 1 false, .open 2 true] ∧
      SparesAll [false, true] turns b ∧
      (b.strides turns).handles.map (·.state) = [.disconnected, .disconnected, .connected] ∧
      ((b.setPending [.open 0 true, .open 2 true]).strides turns).shown =
        (b.strides turns).shown := by
  intro b turns
  have pending : b.loop.pending = [.open 0 true, .open 1 false, .open 2 true] := by decide
  have taken : Thins [false, true] b.loop.pending [.open 0 true, .open 2 true] := by
    rw [pending]
    exact .keep 0 true (.drop 1 false (.rest _))
  have spared : SparesAll [false, true] turns b := by decide
  have inFlight : b.loop.stage.opens? ≠ none → [false, true].head? ≠ some true := by decide
  exact ⟨pending, spared, by decide,
    (stale_opens_invisible taken inFlight spared (List.append_nil turns).symm).1⟩

end Invisible

end Broker

end CameraBroker
