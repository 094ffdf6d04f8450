import CameraBroker.Handle
import CameraBroker.IdleTimer

/-! Sessions: one opened device, the handle bound to it, and the idle timer that asks for
its close. A listener watches the device until it is lost. -/
namespace CameraBroker

/-- The task that watches the device of a session. -/
inductive Listener where
  | watching (seen : Option Nat)
  | done
deriving DecidableEq, Repr

structure Session where
  camera : CameraId
  device : DeviceId
  current : Option HandleId := none
  timer : IdleTimer
  /-- Somebody has begun to close the session on purpose. -/
  closing : Bool := false
  listener : Listener := .watching none
deriving DecidableEq

namespace Session

/-- A fresh session counts down at once. -/
def start (camera : CameraId) (device : DeviceId) (now : Nat) : Session :=
  { camera, device, timer := IdleTimer.arm now { window := idleWindow } }

/-- The listener has something to look at. -/
def canListen (s : Stream) (x : Session) : Bool :=
  match x.listener with
  | .watching seen => s.hasNews seen
  | .done => false

def inspect (n : Names) (id : SessionId) (state : DeviceState) (x : Session) : String :=
  "ActiveSession \x7b id: " ++ n.session id ++ ", camera_id: " ++ x.camera.inspect ++
    ", device_state: " ++ state.name ++ ", current: " ++
    (match x.current with
      | none => "None"
      | some h => "Some(" ++ n.handle h ++ ")") ++ " \x7d"

end Session

end CameraBroker
