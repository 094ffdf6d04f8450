import CameraBroker.Lifecycle

/-! State streams of devices. A stream holds its latest state only; a reader that remembers
the version it has seen learns whether there is news, not what it missed. -/
namespace CameraBroker

structure Stream where
  state : DeviceState
  version : Nat := 0
  /-- The publisher still exists. Without it nothing more will arrive. -/
  live : Bool := true
deriving DecidableEq, Repr

namespace Stream

/-- A publication counts as news even when the state is the same. -/
def publish (state : DeviceState) (s : Stream) : Stream :=
  { s with state, version := s.version + 1 }

/-- The publisher goes away. -/
def drop (s : Stream) : Stream := { s with live := false }

/-- A forward move is published, any other is not. -/
def advance? (state : DeviceState) (s : Stream) : Option Stream :=
  if s.state.canAdvanceTo state then some (s.publish state) else none

/-- There is something for a reader that saw `seen`, if it has looked at all. -/
def hasNews (s : Stream) (seen : Option Nat) : Bool := seen ≠ some s.version || !s.live

/-- Closed, or without a publisher, which comes to the same. -/
def isGone (s : Stream) : Bool := s.state = .closed || !s.live

/-- The device cannot be used any more. -/
def isLost (s : Stream) : Bool := s.state.isTearingDown || !s.live

end Stream

end CameraBroker
