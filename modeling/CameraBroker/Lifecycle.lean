import CameraBroker.Mismatch

/-! The two life cycles. A device goes from unopened to closed and a handle from unopened
to disconnected or closed, both only ever forward along a rank. -/
namespace CameraBroker

inductive DeviceState where
  | unopened
  | opening
  | «open»
  | closing
  | closed
deriving DecidableEq, Repr

namespace DeviceState

def rank : DeviceState → Nat
  | .unopened => 0
  | .opening => 1
  | .open => 2
  | .closing => 3
  | .closed => 4

def canAdvanceTo (a b : DeviceState) : Bool := a.rank < b.rank

/-- Closing or closed: no use can be made of the device any more. -/
def isTearingDown (s : DeviceState) : Bool := s = .closing || s = .closed

def name : DeviceState → String
  | .unopened => "Unopened"
  | .opening => "Opening"
  | .open => "Open"
  | .closing => "Closing"
  | .closed => "Closed"

def all : List DeviceState := [.unopened, .opening, .open, .closing, .closed]

def ofName (s : String) : Except Mismatch DeviceState :=
  match all.find? (·.name = s) with
  | some d => .ok d
  | none => .error (.name s (all.map name))

end DeviceState

inductive HandleState where
  | unopened
  | connected
  | disconnected
  | closed
deriving DecidableEq, Repr

namespace HandleState

def rank : HandleState → Nat
  | .unopened => 0
  | .connected => 1
  | .disconnected => 2
  | .closed => 3

def canMoveTo (a b : HandleState) : Bool := a.rank < b.rank

/-- The client's use of the handle is over. -/
def isTerminal (s : HandleState) : Bool := s = .disconnected || s = .closed

def name : HandleState → String
  | .unopened => "Unopened"
  | .connected => "Connected"
  | .disconnected => "Disconnected"
  | .closed => "Closed"

def all : List HandleState := [.unopened, .connected, .disconnected, .closed]

def ofName (s : String) : Except Mismatch HandleState :=
  match all.find? (·.name = s) with
  | some h => .ok h
  | none => .error (.name s (all.map name))

end HandleState

/-- Why a handle was given up before it was connected. -/
inductive OpenFailure where
  | permissionDenied
  | openFailed
  | superseded
  | brokerStopped
deriving DecidableEq, Repr

namespace OpenFailure

def message : OpenFailure → String
  | .permissionDenied => "camera permission has not been granted"
  | .openFailed => "camera device could not be opened"
  | .superseded => "open request was superseded by a close-all"
  | .brokerStopped => "camera arbiter has stopped"

def name : OpenFailure → String
  | .permissionDenied => "PermissionDenied"
  | .openFailed => "OpenFailed"
  | .superseded => "Superseded"
  | .brokerStopped => "ArbiterStopped"

def all : List OpenFailure := [.permissionDenied, .openFailed, .superseded, .brokerStopped]

def ofName (s : String) : Except Mismatch OpenFailure :=
  match all.find? (·.name = s) with
  | some f => .ok f
  | none => .error (.name s (all.map name))

end OpenFailure

end CameraBroker
