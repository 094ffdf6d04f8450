import CameraBroker.Hardware
import CameraBroker.Inbox
import CameraBroker.Session

/-! The state of the broker: hardware, handles and sessions, the inbox, and the request loop
that is its only reader. Who holds a session or a device is read off the state. -/
namespace CameraBroker

/-- What one call of an opener driven by a script comes to. -/
inductive ScriptedOpen where
  | refused
  | crash
  | device (state : DeviceState)
deriving DecidableEq, Repr

/-- How the loop gets at devices: from the simulated cameras with retries, or from a script
that hands out devices driven by hand. After the script every call yields an open device. -/
inductive Opener where
  | retrying (policy : RetryPolicy)
  | scripted (delay : Nat) (onClose : OnClose) (outcomes : List ScriptedOpen)
deriving DecidableEq, Repr

/-- How far a call of the opener has come. -/
inductive OpenerCall where
  | acquiring (attempt : Nat) (device : DeviceId) (due : Nat)
  | pausing (attempt : Nat) (due : Nat)
  | scripted (due : Nat)
deriving DecidableEq, Repr

/-- What the loop does once the sessions it closes are closed. -/
inductive AfterClose where
  | read
  | stop
deriving DecidableEq, Repr

/-- Where the loop waits. -/
inductive LoopStage where
  | fresh
  | reading
  | opening (handle : HandleId) (call : OpenerCall)
  | closing (sessions left : List SessionId) (after : AfterClose)
  | stopped
  | crashed
deriving DecidableEq, Repr

structure RequestLoop where
  pending : List Request := []
  active : List SessionId := []
  stage : LoopStage := .fresh
deriving DecidableEq, Repr

/-- A task that closes a session. -/
structure SessionClose where
  session : SessionId
  stage : CloseStage := .fresh
deriving DecidableEq, Repr

structure Broker where
  hw : Hardware
  handles : List Handle := []
  sessions : List Session := []
  inbox : Inbox Request := {}
  closes : List SessionClose := []
  /-- Sessions that a client outside the loop holds. -/
  kept : List SessionId := []
  loop : RequestLoop := {}
  granted : Bool := true
  opener : Opener := .retrying {}
deriving DecidableEq

namespace LoopStage

/-- The sessions that the loop waits for. -/
def closingSessions : LoopStage → List SessionId
  | .closing sessions _ _ => sessions
  | _ => []

/-- The device that the loop is about to get. -/
def acquired? : LoopStage → Option DeviceId
  | .opening _ (.acquiring _ d _) => some d
  | _ => none

end LoopStage

namespace Broker

def emit (e : Event) (b : Broker) : Broker := { b with hw := b.hw.emit e }

def now (b : Broker) : Nat := b.hw.now

def onHardware (f : Hardware → Hardware) (b : Broker) : Broker := { b with hw := f b.hw }

def onSession (i : SessionId) (f : Session → Session) (b : Broker) : Broker :=
  { b with sessions := b.sessions.modify i f }

def onTimer (i : TimerId) (f : IdleTimer → IdleTimer) (b : Broker) : Broker :=
  b.onSession i fun x => { x with timer := f x.timer }

def setHandle (i : HandleId) (h : Handle) (b : Broker) : Broker :=
  { b with handles := b.handles.set i h }

def onLoop (f : RequestLoop → RequestLoop) (b : Broker) : Broker := { b with loop := f b.loop }

def setStage (stage : LoopStage) (b : Broker) : Broker := b.onLoop fun l => { l with stage }

/-- Somebody holds the session: a client, the loop, a request for its close, or a task that
closes it. A session that nobody holds is gone, and its listener with it. -/
def holdsSession (b : Broker) (i : SessionId) : Bool :=
  b.kept.contains i || b.loop.active.contains i || b.loop.stage.closingSessions.contains i ||
  b.loop.pending.contains (.close i) || b.inbox.buffer.contains (.close i) ||
  b.closes.any fun c => c.session = i && c.stage ≠ .done

/-- Somebody holds the device: a session that is held, its release, or an open under way. -/
def holdsDevice (b : Broker) (d : DeviceId) : Bool :=
  (List.range b.sessions.length).any (fun i =>
    (b.sessions[i]?).any (fun x => x.device = d) && b.holdsSession i) ||
  b.hw.isReleasing d || b.loop.stage.acquired? = some d

/-- The state stream of a device. A simulated device publishes while somebody holds it. -/
def stream? (b : Broker) (d : DeviceId) : Option Stream :=
  (b.hw.devices[d]?).map fun x => match x.make with
    | .simulated _ => { x.stream with live := b.holdsDevice d }
    | .manual _ => x.stream

def sessionStream? (b : Broker) (i : SessionId) : Option Stream :=
  (b.sessions[i]?).bind fun x => b.stream? x.device

/-- The device of the session is closed, or its publisher is gone. -/
def isSessionGone (b : Broker) (i : SessionId) : Bool := (b.sessionStream? i).all Stream.isGone

/-- A token comes back to its timer, if there is one. -/
def giveBack (token : Option TimerId) (b : Broker) : Broker :=
  match token with
  | none => b
  | some i => b.onTimer i (·.giveBack b.now)

def failHandle (i : HandleId) (reason : OpenFailure) (b : Broker) : Broker :=
  match b.handles[i]? with
  | none => b
  | some h => match h.fail? reason with
    | none => b
    | some h => (b.setHandle i h).emit (.handleFailed i h.camera reason)

def disconnect (i : HandleId) (b : Broker) : Broker :=
  match b.handles[i]? with
  | none => b
  | some h =>
    let b := if (h.move? .disconnected).isSome then b.emit (.handleDisconnected i h.camera) else b
    (b.setHandle i h.disconnect).giveBack h.token?

/-- The observer of a handle takes its turn. -/
def observe (i : HandleId) (b : Broker) : Broker :=
  match b.handles[i]? with
  | none => b
  | some h => match h.binding.bind fun x => b.stream? x.device with
    | none => b
    | some s =>
      let after := h.observe s
      let b := b.setHandle i after
      if after.binding.isSome then b else b.giveBack h.token?

/-- Puts a request into the inbox, if it is taken. -/
def offer (r : Request) (b : Broker) : Except Refusal Broker :=
  (b.inbox.offer r).map fun inbox => { b with inbox }.emit (.accepted r)

end Broker

end CameraBroker
