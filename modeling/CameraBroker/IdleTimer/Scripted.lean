import CameraBroker.IdleTimer
import CameraBroker.Schedule

/-! An idle timer whose notifications are answered from a script. The callback may call the
timer itself before it answers, so a notification can run inside another operation. -/
namespace CameraBroker

/-- What a callback does on the timer it was called by. -/
inductive InnerCall where
  | arm
  | acquire
  | release
  | expire
deriving DecidableEq, Repr

/-- One run of the callback: perhaps an inner call, then the answer. -/
structure Answer where
  first : Option InnerCall := none
  delivered : Bool
deriving DecidableEq, Repr

/-- A callback run begins or ends. -/
inductive CallEvent where
  | entered (instant : Nat)
  | returned (instant : Nat) (delivered : Bool)
deriving DecidableEq, Repr

structure ScriptedTimer where
  now : Nat := 0
  timer : IdleTimer
  /-- The answers still to come. After the last one every notification is delivered. -/
  script : List Answer := []
  /-- Latest first. -/
  history : List CallEvent := []
deriving DecidableEq, Repr

namespace ScriptedTimer

/-- Runs the callback of a timer that was just released and acts on its answer. The inner
call sees the timer as it is then, with the rest of the script. -/
def notify (now : Nat) : List Answer → IdleTimer → List CallEvent → ScriptedTimer
  | [], t, past =>
    ⟨now, t.answered now true, [], .returned now true :: .entered now :: past⟩
  | a :: rest, t, past =>
    let past := .entered now :: past
    let inner : ScriptedTimer := match a.first with
      | none => ⟨now, t, rest, past⟩
      | some .arm => ⟨now, t.arm now, rest, past⟩
      | some .acquire => match t.acquire? with
        | some u => ⟨now, u.giveBack now, rest, past⟩
        | none => ⟨now, t, rest, past⟩
      | some .release => ⟨now, t.release.2, rest, past⟩
      | some .expire => match t.expire? with
        | some u => notify now rest u past
        | none => ⟨now, t, rest, past⟩
    { inner with
      timer := inner.timer.answered now a.delivered
      history := .returned now a.delivered :: inner.history }

def arm (s : ScriptedTimer) : ScriptedTimer := { s with timer := s.timer.arm s.now }

def acquire (s : ScriptedTimer) : Bool × ScriptedTimer :=
  match s.timer.acquire? with
  | some t => (true, { s with timer := t })
  | none => (false, s)

def giveBack (s : ScriptedTimer) : ScriptedTimer := { s with timer := s.timer.giveBack s.now }

def release (s : ScriptedTimer) : Bool × ScriptedTimer :=
  (s.timer.release.1, { s with timer := s.timer.release.2 })

def expire (s : ScriptedTimer) : Bool × ScriptedTimer :=
  match s.timer.expire? with
  | some t => (true, notify s.now s.script t s.history)
  | none => (false, s)

/-- The countdown of `generation` wakes. -/
def wakeCountdown (generation : Nat) (s : ScriptedTimer) : ScriptedTimer :=
  let t := s.timer.awaken generation
  match t.fire? generation with
  | some u => notify s.now s.script u s.history
  | none => { s with timer := t }

/-- When the callback was entered, in order. -/
def calls (s : ScriptedTimer) : List Nat :=
  s.history.reverse.filterMap fun
    | .entered t => some t
    | .returned _ _ => none

instance : Machine ScriptedTimer Nat where
  ready s := s.timer.due s.now
  resume := wakeCountdown
  now s := s.now
  setNow n s := { s with now := n }
  sleepers s := s.timer.sleepers

end ScriptedTimer

end CameraBroker
