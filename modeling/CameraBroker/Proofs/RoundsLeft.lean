import CameraBroker.Proofs.Strides

/-! How many rounds of the loop the requests that wait can take. A close takes one, and a close-all
one at most; an open takes up to four: to make room for it, to replace a dead session, to open the
device and to attach its handle. Each round takes one from those that are left. -/
namespace CameraBroker

def Request.rounds : Request → Nat
  | .open _ _ => 4
  | .close _ => 1
  | .closeAll => 1

namespace Broker
variable {b b' : Broker} {a : Action} {c : CameraId} {h : HandleId} {share : Bool} {x : Handle}
  {r : Request} {rest : List Request}

def roundsOf : List Request → Nat
  | [] => 0
  | r :: rest => r.rounds + roundsOf rest

/-- A round for an exclusive open that other cameras are in the way of. -/
def roomRounds (c : CameraId) (share : Bool) (b : Broker) : Nat :=
  if share = false ∧ b.view.others c ≠ [] then 1 else 0

/-- Rounds that an open takes at most when its turn has come. -/
def openRounds (h : HandleId) (share : Bool) (b : Broker) : Nat :=
  match b.handles[h]? with
  | none => 1
  | some x =>
    if x.state = .unopened then b.view.roundsFor x.camera + b.roomRounds x.camera share else 1

/-- Rounds that what waits takes at most. The oldest open has had some of its rounds, unless closes
go first. -/
def roundsLeft (b : Broker) : Nat :=
  match b.waiting with
  | .open h share :: rest =>
    if rest.all Request.isOpen then
      (if b.loop.stage.opens? = none then b.openRounds h share else 1) + roundsOf rest
    else roundsOf b.waiting
  | rs => roundsOf rs

theorem roundsOf_cons (r : Request) (rs : List Request) :
    roundsOf (r :: rs) = r.rounds + roundsOf rs := rfl

theorem rounds_pos (r : Request) : 1 ≤ r.rounds := by cases r <;> simp [Request.rounds]

theorem roundsOf_le (rs : List Request) : roundsOf rs ≤ 4 * rs.length := by
  induction rs with
  | nil => exact Nat.le_refl _
  | cons r rs ih =>
    have most : r.rounds ≤ 4 := by cases r <;> simp [Request.rounds]
    rw [roundsOf_cons, List.length_cons]
    omega

theorem roundsOf_of_sublist {rs more : List Request} (sub : rs.Sublist more) :
    roundsOf rs + (more.length - rs.length) ≤ roundsOf more := by
  induction sub with
  | slnil => exact Nat.le_refl _
  | @cons rs more r sub ih =>
    have some := rounds_pos r
    have shorter := sub.length_le
    rw [roundsOf_cons, List.length_cons]
    omega
  | @cons_cons rs more r sub ih =>
    rw [roundsOf_cons, roundsOf_cons, List.length_cons, List.length_cons]
    omega

theorem roomRounds_of_alone (alone : share = false → b.view.others c = []) :
    b.roomRounds c share = 0 :=
  if_neg fun ⟨exclusive, crowded⟩ => crowded (alone exclusive)

theorem roomRounds_le (c : CameraId) (share : Bool) (b : Broker) : b.roomRounds c share ≤ 1 := by
  unfold roomRounds
  split <;> decide

theorem roomRounds_mono (others : b.view.others c = [] → b'.view.others c = []) :
    b'.roomRounds c share ≤ b.roomRounds c share := by
  unfold roomRounds
  split
  · rename_i crowded
    exact Nat.le_of_eq (if_pos ⟨crowded.1, fun none => crowded.2 (others none)⟩).symm
  · exact Nat.zero_le _

theorem openRounds_eq (hx : b.handles[h]? = some x) (waits : x.state = .unopened) :
    b.openRounds h share = b.view.roundsFor x.camera + b.roomRounds x.camera share := by
  rw [openRounds, hx]
  exact if_pos waits

theorem openRounds_bounds (h : HandleId) (share : Bool) (b : Broker) :
    1 ≤ b.openRounds h share ∧ b.openRounds h share ≤ 4 := by
  unfold openRounds
  split
  · exact ⟨by decide, by decide⟩
  · rename_i x hx
    have room := b.roomRounds_le x.camera share
    split
    · have own := b.view.roundsFor_bounds x.camera
      omega
    · exact ⟨by decide, by decide⟩

theorem roundsLeft_of_opens (head : b.waiting = .open h share :: rest)
    (opens : ∀ r ∈ b.waiting, r.isOpen = true) : b.roundsLeft =
      (if b.loop.stage.opens? = none then b.openRounds h share else 1) + roundsOf rest := by
  have all : rest.all Request.isOpen = true :=
    List.all_eq_true.2 fun r mem => opens r (head ▸ List.mem_cons_of_mem _ mem)
  rw [roundsLeft, head]
  exact if_pos all

theorem roundsLeft_of_close (mem : r ∈ b.waiting) (close : r.isOpen = false) :
    b.roundsLeft = roundsOf b.waiting := by
  unfold roundsLeft
  split
  · rename_i h share rest head
    refine if_neg fun all => ?_
    rw [head] at mem
    rcases List.mem_cons.1 mem with rfl | mem
    · cases close
    · cases close.symm.trans (List.all_eq_true.1 all r mem)
  · rfl

/-- The oldest request takes a round at least, and those behind it all of theirs. -/
theorem roundsLeft_cons (head : b.waiting = r :: rest) : 1 + roundsOf rest ≤ b.roundsLeft := by
  by_cases opens : ∀ r ∈ b.waiting, r.isOpen = true
  · cases r with
    | «open» h share =>
      have some := (openRounds_bounds h share b).1
      rw [roundsLeft_of_opens head opens]
      split <;> omega
    | close i => cases opens (.close i) (head ▸ List.mem_cons_self)
    | closeAll => cases opens .closeAll (head ▸ List.mem_cons_self)
  · obtain ⟨q, mem, close⟩ : ∃ q ∈ b.waiting, q.isOpen = false := by simpa using opens
    have some := rounds_pos r
    rw [roundsLeft_of_close mem close, head, roundsOf_cons]
    omega

theorem roundsLeft_le (b : Broker) : b.roundsLeft ≤ roundsOf b.waiting := by
  by_cases opens : ∀ r ∈ b.waiting, r.isOpen = true
  · cases head : b.waiting with
    | nil =>
      have same : b.roundsLeft = roundsOf [] := by rw [roundsLeft, head]
      exact Nat.le_of_eq same
    | cons r rest =>
      cases r with
      | «open» h share =>
        have most := (openRounds_bounds h share b).2
        have four : Request.rounds (.open h share) = 4 := rfl
        rw [roundsLeft_of_opens head opens, roundsOf_cons, four]
        split <;> omega
      | close i => cases opens (.close i) (head ▸ List.mem_cons_self)
      | closeAll => cases opens .closeAll (head ▸ List.mem_cons_self)
  · obtain ⟨q, mem, close⟩ : ∃ q ∈ b.waiting, q.isOpen = false := by simpa using opens
    exact Nat.le_of_eq (roundsLeft_of_close mem close)

theorem Evaluates.opens (evaluates : b.Evaluates h share x) : ∀ r ∈ b.waiting, r.isOpen = true := by
  intro r mem
  cases r with
  | «open» g s => rfl
  | close i => exact absurd mem (evaluates.noClose i)
  | closeAll => exact absurd mem evaluates.noCloseAll

/-- A handle stays for its camera, and one that waits has waited. -/
theorem Reachable.handle_step (hr : Reachable b) (hx : b.handles[h]? = some x) (a : Action) :
    ∃ y, (b.step a).handles[h]? = some y ∧ y.camera = x.camera ∧
      (y.state = .unopened → x.state = .unopened) := by
  obtain ⟨y, hy, forward⟩ := hr.forward_step hx a
  have camera := hr.wanted_step (h := h) (c := x.camera) (by simp [view, hx]) a
  refine ⟨y, hy, by simpa [view, hy] using camera, fun waits => ?_⟩
  rw [waits] at forward
  exact eq_unopened_of_rank_le forward

theorem Reachable.openRounds_step (hr : Reachable b) (hx : b.handles[h]? = some x) {n : Nat}
    (some : 1 ≤ n) (most : x.state = .unopened →
      (b.step a).view.roundsFor x.camera + (b.step a).roomRounds x.camera share ≤ n) :
    (b.step a).openRounds h share ≤ n := by
  obtain ⟨y, hy, camera, waited⟩ := hr.handle_step hx a
  unfold openRounds
  rw [hy]
  dsimp only
  split
  · rename_i waits
    rw [camera]
    exact most (waited waits)
  · exact some

/-- The oldest open has one round less to go after a round that takes it up, and never more. -/
theorem Reachable.openRounds_pace (hr : Reachable b) (pace : b.Pace a (b.step a))
    (head : b.waiting = .open h share :: rest) :
    (if (b.step a).loop.stage.opens? = none then (b.step a).openRounds h share else 1) +
        (if b.BeginsRound a then 1 else 0) ≤
      if b.loop.stage.opens? = none then b.openRounds h share else 1 := by
  obtain ⟨x, hx⟩ : ∃ x, b.handles[h]? = some x :=
    ⟨_, List.getElem?_eq_getElem (lt_of_waiting hr.sound (head ▸ List.mem_cons_self))⟩
  have taken : ∀ {g : HandleId} {s : Bool} {y : Handle}, b.Evaluates g s y →
      h = g ∧ share = s ∧ x = y ∧ b.loop.stage.opens? = none := by
    intro g s y evaluates
    obtain ⟨rfl, rfl⟩ := evaluates.eq_of_head head
    exact ⟨rfl, rfl, Option.some.inj (hx.symm.trans evaluates.handle),
      congrArg LoopStage.opens? evaluates.stage⟩
  have once : (if b.BeginsRound a then 1 else 0) ≤ 1 := by split <;> decide
  cases pace with
  | rests quiet calls active awaits eases =>
    rw [calls, if_neg quiet, Nat.add_zero]
    split
    · refine hr.openRounds_step hx (openRounds_bounds h share b).1 fun waits => ?_
      rw [openRounds_eq hx waits]
      exact Nat.add_le_add (eases x.camera).rounds (roomRounds_mono (eases x.camera).others)
    · exact Nat.le_refl 1
  | makesRoom evaluates waits crowded idle out others rounds =>
    obtain ⟨rfl, rfl, rfl, calls⟩ := taken evaluates
    have room : b.roomRounds x.camera false = 1 := if_pos ⟨rfl, crowded⟩
    have less : (b.step a).openRounds h false ≤ b.view.roundsFor x.camera := by
      refine hr.openRounds_step hx (b.view.roundsFor_bounds x.camera).1 fun _ => ?_
      rw [roomRounds_of_alone fun _ => others]
      exact Nat.le_of_eq rounds
    rw [if_pos idle, if_pos calls, openRounds_eq hx waits, room]
    omega
  | replaces evaluates waits alone session dead idle out others rounds =>
    obtain ⟨rfl, rfl, rfl, calls⟩ := taken evaluates
    have three := View.roundsFor_of_closing session dead
    have less : (b.step a).openRounds h share ≤ 2 + b.roomRounds x.camera share := by
      refine hr.openRounds_step hx (by omega) fun _ => ?_
      rw [rounds]
      exact Nat.add_le_add_left (roomRounds_mono others) 2
    rw [if_pos idle, if_pos calls, openRounds_eq hx waits, three]
    omega
  | asks evaluates waits none called active alone eases =>
    obtain ⟨rfl, rfl, rfl, calls⟩ := taken evaluates
    have opening : (b.step a).loop.stage.opens? ≠ .none := by
      rw [called]
      exact Option.some_ne_none _
    rw [if_neg opening, if_pos calls, openRounds_eq hx waits, View.roundsFor_of_none none]
    omega
  | @joins _ c calls asked stage i session rounds others =>
    obtain ⟨share', more, same, alone⟩ := asked.head
    cases head.symm.trans same
    obtain rfl : x.camera = c := by simpa [view, hx] using asked.camera
    have opening : b.loop.stage.opens? ≠ none := by
      rw [calls]
      exact Option.some_ne_none _
    have reads : (b.step a).loop.stage.opens? = none := congrArg LoopStage.opens? stage
    have quiet : ¬b.BeginsRound a := by
      rintro ⟨-, reading, -⟩
      exact opening (congrArg LoopStage.opens? reading)
    rw [if_pos reads, if_neg opening, if_neg quiet]
    refine hr.openRounds_step hx (Nat.le_refl 1) fun _ => ?_
    have room : (b.step a).roomRounds x.camera share = 0 := by
      refine roomRounds_of_alone fun exclusive => others ?_
      rw [View.others, alone exclusive, List.filter_nil]
    omega

/-- Every round takes one from the rounds that are left, and no other step adds to them. -/
theorem Reachable.roundsLeft_step (hr : Reachable b) (calm : b.Undisturbed a) :
    (b.step a).roundsLeft + (if b.BeginsRound a then 1 else 0) ≤ b.roundsLeft := by
  have some : (if b.BeginsRound a then 1 else 0) ≤ b.roundsLeft := by
    split
    · rename_i begins
      obtain ⟨r, rest, head⟩ := List.exists_cons_of_ne_nil begins.busy
      have pos := roundsLeft_cons head
      omega
    · exact Nat.zero_le _
  have once : (if b.BeginsRound a then 1 else 0) ≤ 1 := by split <;> decide
  have left := (b.step a).roundsLeft_le
  cases hr.stride calm with
  | empties none =>
    rw [none] at left
    have zero : roundsOf [] = 0 := rfl
    omega
  | serves head =>
    have more := roundsLeft_cons head
    omega
  | overtakes mem close sub fewer =>
    have more := roundsOf_of_sublist sub
    rw [roundsLeft_of_close mem close]
    omega
  | keeps same pace =>
    by_cases opens : ∀ r ∈ b.waiting, r.isOpen = true
    · cases head : b.waiting with
      | nil =>
        have zero : (b.step a).roundsLeft ≤ roundsOf [] := by rwa [same, head] at left
        have zero' : roundsOf [] = 0 := rfl
        omega
      | cons r rest =>
        cases r with
        | «open» h share =>
          have less := hr.openRounds_pace pace head
          rw [roundsLeft_of_opens head opens,
            roundsLeft_of_opens (same.trans head) (same.symm ▸ opens)]
          omega
        | close i => cases opens (.close i) (head ▸ List.mem_cons_self)
        | closeAll => cases opens .closeAll (head ▸ List.mem_cons_self)
    · obtain ⟨q, mem, close⟩ : ∃ q ∈ b.waiting, q.isOpen = false := by simpa using opens
      have quiet : ¬b.BeginsRound a := by
        rintro begins
        cases pace with
        | rests quiet => exact quiet begins
        | makesRoom evaluates => exact opens evaluates.opens
        | replaces evaluates => exact opens evaluates.opens
        | asks evaluates => exact opens evaluates.opens
        | joins calls asked stage session rounds others =>
          cases (congrArg LoopStage.opens? begins.stage).symm.trans calls
      rw [roundsLeft_of_close mem close, roundsLeft_of_close (same.symm ▸ mem) close, same,
        if_neg quiet]
      exact Nat.le_refl _

end Broker

end CameraBroker
