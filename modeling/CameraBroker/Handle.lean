import CameraBroker.Event
import CameraBroker.Stream

/-! Handles: what a client holds while it asks for a camera. A handle is resolved once, by a
connection to a device or by a failure. While bound it follows the device's stream, and its
state only ever moves forward. -/
namespace CameraBroker

/-- A timer is named like the session that it watches over. -/
abbrev TimerId := Nat

/-- The attachment of a handle to a device stream, with the version the observer has seen
and the idle token it keeps. -/
structure Binding where
  device : DeviceId
  token : Option TimerId
  seen : Option Nat := none
deriving DecidableEq, Repr

structure Handle where
  camera : CameraId
  state : HandleState := .unopened
  failure : Option OpenFailure := none
  binding : Option Binding := none
  /-- How often the client holds the handle. -/
  clients : Nat := 1
deriving DecidableEq

namespace Handle

/-- A forward move, if `next` is one. -/
def move? (next : HandleState) (h : Handle) : Option Handle :=
  if h.state.canMoveTo next then some { h with state := next } else none

/-- The handle after a forward move, or as it was. -/
def moveTo (next : HandleState) (h : Handle) : Handle := (h.move? next).getD h

/-- The token that the binding keeps, if there is one. -/
def token? (h : Handle) : Option TimerId := h.binding.bind (·.token)

def unbind (h : Handle) : Handle := { h with binding := none }

/-- Gives up a handle that is still unopened. -/
def fail? (reason : OpenFailure) (h : Handle) : Option Handle :=
  if h.state = .unopened then some { h with state := .disconnected, failure := some reason }
  else none

/-- Attaches the handle, if it is still unopened. -/
def connect? (device : DeviceId) (token : Option TimerId) (h : Handle) : Option Handle :=
  (h.move? .connected).map fun h => { h with binding := some ⟨device, token, none⟩ }

/-- Detaches the handle or cancels its request. -/
def disconnect (h : Handle) : Handle := (h.moveTo .disconnected).unbind

/-- The observer of a bound handle looks at the stream. A closing device disconnects the
handle, which keeps its token; a closed or vanished one closes and unbinds it. -/
def observe (s : Stream) (h : Handle) : Handle :=
  match h.binding with
  | none => h
  | some b =>
    if s.isGone then ((if s.state = .closing then h.moveTo .disconnected else h).moveTo .closed).unbind
    else
      { (if s.state = .closing then h.moveTo .disconnected else h) with
        binding := some { b with seen := some s.version } }

/-- The observer has something to look at. -/
def canObserve (s : Stream) (h : Handle) : Bool :=
  match h.binding with
  | none => false
  | some b => s.hasNews b.seen

/-- The failure is shown behind the state. -/
def summary (h : Handle) : String :=
  match h.failure with
  | none => h.state.name
  | some f => h.state.name ++ "/" ++ f.name

def inspect (name : String) (h : Handle) : String :=
  "VirtualCamera \x7b id: " ++ name ++ ", camera_id: " ++ h.camera.inspect ++ ", state: " ++
    h.state.name ++ ", bound: " ++ (if h.binding.isSome then "true" else "false") ++ " \x7d"

end Handle

end CameraBroker
