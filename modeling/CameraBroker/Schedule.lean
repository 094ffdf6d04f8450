/-! Cooperative scheduling. A machine has tasks that go on until they have to wait, a clock
that stands still while a task can go on, and instants at which sleeping tasks wake.
The order is first woken, first served. -/
namespace CameraBroker

/-- A state whose tasks are named by `τ`. -/
class Machine (σ : Type) (τ : outParam Type) where
  /-- The tasks that can go on. Those woken by one turn are served in this order. -/
  ready : σ → List τ
  /-- One turn of a task, up to the next point where it waits. -/
  resume : τ → σ → σ
  now : σ → Nat
  setNow : Nat → σ → σ
  /-- The tasks that sleep, each with the instant at which it wakes. -/
  sleepers : σ → List (τ × Nat)

/-- A state, its tasks in the order in which they were woken, and those that sleep in the
order in which they fell asleep. -/
structure Schedule (σ τ : Type) where
  state : σ
  queue : List τ := []
  asleep : List (τ × Nat) := []

namespace Schedule
variable {σ τ : Type} [Machine σ τ] [DecidableEq τ]

/-- Queues the tasks that have become ready, and notes who fell asleep. -/
def wake (s : Schedule σ τ) : Schedule σ τ :=
  let sleepers := Machine.sleepers s.state
  { s with
    queue := s.queue ++ (Machine.ready s.state).filter fun t => !s.queue.contains t
    asleep := (s.asleep.filter fun x => sleepers.contains x) ++
      sleepers.filter fun x => !s.asleep.contains x }

/-- Something outside the tasks happens. -/
def act (f : σ → σ) (s : Schedule σ τ) : Schedule σ τ := wake { s with state := f s.state }

/-- One turn of the first task in the queue. It keeps its place while it can go on, and a
task that can no longer go on loses its turn. -/
def turn (s : Schedule σ τ) : Schedule σ τ :=
  match s.queue with
  | [] => s
  | t :: rest =>
    if t ∈ Machine.ready s.state then
      let state := Machine.resume t s.state
      wake { s with state, queue := if t ∈ Machine.ready state then t :: rest else rest }
    else { s with queue := rest }

/-- Turns until every task waits, at most `fuel` of them. -/
def settleWithin : Nat → Schedule σ τ → Schedule σ τ
  | 0, s => s
  | fuel + 1, s => if s.queue.isEmpty then s else settleWithin fuel s.turn

/-- A bound on turns that no run of a finite script comes near. -/
def patience : Nat := 1000000000000

/-- Every task waits for time to pass or for an outside event. -/
def settle (s : Schedule σ τ) : Schedule σ τ := settleWithin patience s.wake

/-- The next instant after now at which somebody wakes, not beyond the limit if there is one. -/
def nextAlarm? (s : Schedule σ τ) (limit : Option Nat) : Option Nat :=
  (((Machine.sleepers s.state).map (·.2)).filter fun a =>
    Machine.now s.state < a && limit.all (a ≤ ·)).min?

/-- The clock moves on to an instant. Who sleeps until then wakes in the order of falling
asleep. -/
def advance (instant : Nat) (s : Schedule σ τ) : Schedule σ τ :=
  let due := (s.asleep.filter fun x => x.2 ≤ instant).map (·.1)
  settle { s with
    state := Machine.setNow instant s.state
    queue := s.queue ++ due.filter fun t => !s.queue.contains t }

/-- Lets time pass from alarm to alarm until `done` holds at rest or no alarm is left. -/
def passTime (done : σ → Bool) (limit : Option Nat) : Nat → Schedule σ τ → Schedule σ τ
  | 0, s => s
  | fuel + 1, s =>
    if done s.state then s
    else match s.nextAlarm? limit with
      | some a => passTime done limit fuel (s.advance a)
      | none => s

/-- Waits until `done` holds, however long that takes. -/
def waitFor (done : σ → Bool) (s : Schedule σ τ) : Schedule σ τ :=
  if done s.state then s else passTime done none patience s.settle

/-- Waits until `done` holds or `ms` have passed. -/
def waitAtMost (done : σ → Bool) (ms : Nat) (s : Schedule σ τ) : Schedule σ τ :=
  if done s.state then s
  else
    let limit := Machine.now s.state + ms
    let s := passTime done (some limit) patience s.settle
    if done s.state then s else s.advance limit

/-- Lets `ms` pass. -/
def sleep (ms : Nat) (s : Schedule σ τ) : Schedule σ τ := waitAtMost (fun _ => false) ms s

end Schedule

end CameraBroker
