import CameraBroker.Handle
import CameraBroker.IdleTimer
import CameraBroker.Schedule

/-! Handles on their own: device streams that anyone may publish on, handles connected to
them, and one idle timer from which they draw their tokens. -/
namespace CameraBroker

/-- The timer of a bench has this name. -/
def benchTimer : TimerId := 0

structure HandleBench where
  now : Nat := 0
  timer : IdleTimer
  streams : List Stream := []
  handles : List Handle := []
  /-- Latest first. -/
  history : List Event := []
deriving DecidableEq

namespace HandleBench

inductive Task where
  | observe (handle : HandleId)
  | countdown (generation : Nat)
deriving DecidableEq, Repr

def emit (e : Event) (b : HandleBench) : HandleBench := { b with history := e :: b.history }

def setHandle (i : HandleId) (h : Handle) (b : HandleBench) : HandleBench :=
  { b with handles := b.handles.set i h }

/-- A token comes back, if there is one. -/
def giveBack (token : Option TimerId) (b : HandleBench) : HandleBench :=
  match token with
  | none => b
  | some _ => { b with timer := b.timer.giveBack b.now }

/-- A new handle and its name. -/
def create (camera : CameraId) (b : HandleBench) : HandleBench :=
  { b with handles := b.handles ++ [{ camera }] }

/-- The client holds a handle once more. -/
def share (i : HandleId) (b : HandleBench) : HandleBench :=
  match b.handles[i]? with
  | none => b
  | some h => b.setHandle i { h with clients := h.clients + 1 }

/-- The client lets go of a handle once. The last time ends its binding. -/
def forget (i : HandleId) (b : HandleBench) : HandleBench :=
  match b.handles[i]? with
  | none => b
  | some h =>
    if h.clients ≤ 1 then (b.setHandle i { h.unbind with clients := 0 }).giveBack h.token?
    else b.setHandle i { h with clients := h.clients - 1 }

def addStream (state : DeviceState) (b : HandleBench) : HandleBench :=
  { b with streams := b.streams ++ [{ state }] }

def onStream (f : Stream → Stream) (d : DeviceId) (b : HandleBench) : HandleBench :=
  { b with streams := b.streams.modify d f }

/-- Connects a handle to a stream, with a token if one is wanted and to be had. -/
def connect (i : HandleId) (d : DeviceId) (takeToken : Bool) (b : HandleBench) :
    Bool × HandleBench :=
  match b.handles[i]? with
  | none => (false, b)
  | some h =>
    let (token, b) := match if takeToken then b.timer.acquire? else none with
      | some t => (some benchTimer, { b with timer := t })
      | none => (none, b)
    match h.connect? d token with
    | some h => (true, b.setHandle i h)
    | none => (false, b.giveBack token)

def fail (i : HandleId) (reason : OpenFailure) (b : HandleBench) : HandleBench :=
  match b.handles[i]? with
  | none => b
  | some h => match h.fail? reason with
    | none => b
    | some h => (b.setHandle i h).emit (.handleFailed i h.camera reason)

def disconnect (i : HandleId) (b : HandleBench) : HandleBench :=
  match b.handles[i]? with
  | none => b
  | some h =>
    let b := if (h.move? .disconnected).isSome then b.emit (.handleDisconnected i h.camera) else b
    (b.setHandle i h.disconnect).giveBack h.token?

/-- The observer of a handle takes its turn. -/
def observe (i : HandleId) (b : HandleBench) : HandleBench :=
  match b.handles[i]? with
  | none => b
  | some h => match h.binding.bind fun x => b.streams[x.device]? with
    | none => b
    | some s =>
      let after := h.observe s
      let b := b.setHandle i after
      if after.binding.isSome then b else b.giveBack h.token?

/-- A countdown wakes. Its notification always arrives. -/
def wakeCountdown (generation : Nat) (b : HandleBench) : HandleBench :=
  let t := b.timer.awaken generation
  match t.fire? generation with
  | some u => { b with timer := u.answered b.now true }
  | none => { b with timer := t }

def observers (b : HandleBench) : List HandleId :=
  (List.range b.handles.length).filter fun i =>
    match b.handles[i]? with
    | none => false
    | some h => match h.binding.bind fun x => b.streams[x.device]? with
      | none => false
      | some s => h.canObserve s

instance : Machine HandleBench Task where
  ready b := b.observers.map .observe ++ (b.timer.due b.now).map .countdown
  resume
    | .observe i, b => b.observe i
    | .countdown g, b => b.wakeCountdown g
  now b := b.now
  setNow n b := { b with now := n }
  sleepers b := b.timer.sleepers.map fun x => (.countdown x.1, x.2)

end HandleBench

end CameraBroker
