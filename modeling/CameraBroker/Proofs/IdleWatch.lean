import CameraBroker.IdleTimer.Scripted
import Mathlib.Logic.Function.Iterate

/-! The idle timer as its callers may think of it. A watch knows of no countdowns and generations.
It remembers the latest start until something calls that off, and once a start has gone undisturbed
for one window while no token is held, the callback is called. -/
namespace CameraBroker

inductive TimerOp where
  | arm
  | acquire
  | drop
  | release
  | expire
  | pass (ms : Nat)
deriving DecidableEq, Repr

/-- The next answer of the callback. After the last one every notification is delivered. -/
def Answer.next (script : List Answer) : Answer := script.headD { delivered := true }

structure IdleWatch where
  now : Nat
  window : Nat
  tokens : Nat := 0
  released : Bool := false
  /-- Released on purpose at some time, if only by its own callback. -/
  retired : Bool := false
  /-- The latest start, unless it was called off. -/
  started : Option Nat := none
  /-- The answers still to come. -/
  script : List Answer := []
  /-- When the callback was called, in order. -/
  calls : List Nat := []
deriving DecidableEq, Repr

namespace IdleWatch

def start (w : IdleWatch) : IdleWatch := { w with started := some w.now }

def arm (w : IdleWatch) : IdleWatch := if w.tokens = 0 ∧ ¬w.released then w.start else w

def acquire (w : IdleWatch) : IdleWatch :=
  if w.released then w else { w with tokens := w.tokens + 1, started := none }

def drop (w : IdleWatch) : IdleWatch :=
  if 0 < w.tokens then { w with tokens := w.tokens - 1 }.arm else w

def release (w : IdleWatch) : IdleWatch :=
  if w.released then { w with retired := true }
  else { w with released := true, retired := true, started := none }

/-- What the callback does to its timer, which is released then: nothing, unless it releases it on
purpose. -/
def hear (a : Answer) (w : IdleWatch) : IdleWatch :=
  if a.first = some .release then w.release else w

/-- A refused notification starts the watch again, unless it was retired. -/
def answered (delivered : Bool) (w : IdleWatch) : IdleWatch :=
  if delivered ∨ w.retired then w else { w with released := false }.start

def reply (a : Answer) (w : IdleWatch) : IdleWatch := (w.hear a).answered a.delivered

def call (w : IdleWatch) : IdleWatch :=
  { w with
    released := true, started := none, script := w.script.tail,
    calls := w.calls ++ [w.now] }.reply (.next w.script)

def expire (w : IdleWatch) : IdleWatch := if w.released then w else w.call

/-- The latest start is one window ago, undisturbed, and nobody holds a token. -/
def Due (w : IdleWatch) : Prop :=
  w.tokens = 0 ∧ w.released = false ∧ w.started.map (· + w.window) = some w.now

instance (w : IdleWatch) : Decidable w.Due := inferInstanceAs (Decidable (_ ∧ _ ∧ _))

def ring (w : IdleWatch) : IdleWatch := if w.Due then w.call else w

/-- Calls the callback until it is not due any more. Each call uses up an answer, and none is due
after the last. -/
def settle (w : IdleWatch) : IdleWatch := ring^[w.script.length + 1] w

/-- The clock moves on by one. -/
def tick (w : IdleWatch) : IdleWatch := { w with now := w.now + 1 }.settle

def pass (ms : Nat) (w : IdleWatch) : IdleWatch := tick^[ms] w.settle

def perform (w : IdleWatch) : TimerOp → IdleWatch
  | .arm => w.arm
  | .acquire => w.acquire
  | .drop => w.drop
  | .release => w.release
  | .expire => w.expire
  | .pass ms => w.pass ms

def run (ops : List TimerOp) (w : IdleWatch) : IdleWatch := ops.foldl perform w

section
variable {w : IdleWatch}

theorem settle_of_not_due (rests : ¬w.Due) : w.settle = w := by
  have still : w.ring = w := if_neg rests
  exact Function.iterate_fixed still _

def record (w : IdleWatch) : Nat × List Answer × List Nat := (w.now, w.script, w.calls)

theorem record_arm (w : IdleWatch) : w.arm.record = w.record := by
  unfold arm
  split <;> rfl

theorem record_acquire (w : IdleWatch) : w.acquire.record = w.record := by
  unfold acquire
  split <;> rfl

theorem record_drop (w : IdleWatch) : w.drop.record = w.record := by
  unfold drop
  split
  · exact record_arm _
  · rfl

theorem record_release (w : IdleWatch) : w.release.record = w.record := by
  unfold release
  split <;> rfl

theorem record_reply (a : Answer) (w : IdleWatch) : (w.reply a).record = w.record := by
  have heard : (w.hear a).record = w.record := by
    unfold hear
    split
    · exact record_release w
    · rfl
  refine Eq.trans ?_ heard
  unfold reply answered
  split <;> rfl

theorem record_call (w : IdleWatch) : w.call.record = (w.now, w.script.tail, w.calls ++ [w.now]) :=
  record_reply _ _

theorem released_call_of_nil (none : w.script = []) : w.call.released = true := by
  simp [call, none, Answer.next, reply, hear, answered]

theorem settle_of_due (due : w.Due) : w.settle = w.call.settle := by
  have rings : w.settle = ring^[w.script.length] w.call := by
    rw [settle, Function.iterate_succ_apply, ring, if_pos due]
  rw [rings]
  cases some : w.script with
  | nil =>
    refine (settle_of_not_due fun again => ?_).symm
    cases (released_call_of_nil some).symm.trans again.2.1
  | cons a rest =>
    have script : w.call.script = w.script.tail := congrArg (·.2.1) w.record_call
    rw [settle, script, some, List.tail_cons, List.length_cons]

end

/-- Nothing happens as long as no call is due. -/
theorem pass_of_quiet (ms k : Nat) {w : IdleWatch}
    (quiet : ∀ m < k, ¬{ w with now := w.now + m }.Due) :
    w.pass (k + ms) = { w with now := w.now + k }.pass ms := by
  induction k generalizing w with
  | zero => rw [Nat.zero_add, Nat.add_zero]
  | succ k ih =>
    have later : ∀ m < k, ¬{ w with now := w.now + 1 + m }.Due := fun m less => by
      rw [Nat.add_assoc, Nat.add_comm 1]
      exact quiet (m + 1) (Nat.succ_lt_succ less)
    have first : w.pass (k + 1 + ms) = { w with now := w.now + 1 }.pass (k + ms) := by
      have rests : w.settle = w := settle_of_not_due (quiet 0 k.succ_pos)
      rw [pass, rests, Nat.add_right_comm, Function.iterate_succ_apply]
      rfl
    have rest := ih (w := { w with now := w.now + 1 }) later
    rw [first, rest, Nat.add_assoc, Nat.add_comm 1]

end IdleWatch

end CameraBroker
