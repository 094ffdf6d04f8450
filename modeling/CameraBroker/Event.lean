import CameraBroker.Lifecycle
import CameraBroker.Retry

/-! What happens in a run. Every event is a fact about handles, sessions, devices or
requests, some have a line in the log, and some a line in the device log. -/
namespace CameraBroker

abbrev HandleId := Nat
abbrev SessionId := Nat
abbrev DeviceId := Nat

/-- A work item of the request loop. -/
inductive Request where
  | «open» (handle : HandleId) (share : Bool)
  | close (session : SessionId)
  | closeAll
deriving DecidableEq, Repr

inductive Level where
  | error
  | warn
  | info
  | debug
deriving DecidableEq, Repr

def Level.rank : Level → Nat
  | .error => 0
  | .warn => 1
  | .info => 2
  | .debug => 3

def Level.label : Level → String
  | .error => "ERROR"
  | .warn => "WARN"
  | .info => "INFO"
  | .debug => "DEBUG"

/-- How messages name handles and sessions. -/
structure Names where
  handle : HandleId → String
  session : SessionId → String

inductive Event where
  | loopStarted
  | loopStopped
  | loopCrashed (reason : String)
  | accepted (request : Request)
  | refused (request : Request)
  | requestDropped
  | pending (count : Nat)
  | serviced (request : Request)
  | superseding (sessions : Nat)
  | stale (handle : HandleId) (camera : CameraId)
  | makingRoom (sessions : Nat) (camera : CameraId)
  | replacing (camera : CameraId)
  | stopping (sessions : Nat)
  | permissionAsked (camera : CameraId) (granted : Bool)
  | openerAsked (camera : CameraId) (handle : HandleId)
  | deviceOpened (camera : CameraId) (device : DeviceId)
  | openGivenUp (camera : CameraId)
  | handleFailed (handle : HandleId) (camera : CameraId) (reason : OpenFailure)
  | handleDisconnected (handle : HandleId) (camera : CameraId)
  | attached (handle : HandleId) (camera : CameraId) (session : SessionId)
  | attachRefused (handle : HandleId) (camera : CameraId)
  | sessionClosing (camera : CameraId) (session : SessionId)
  | idleCloseRequested (camera : CameraId) (session : SessionId)
  | idleCloseRefused (camera : CameraId) (session : SessionId)
  | sessionPruned (session : SessionId)
  | permissionGranted
  | permissionRevoked
  | openedOnAttempt (camera : CameraId) (attempt attempts : Nat)
  | attemptFailed (camera : CameraId) (attempt attempts : Nat) (error : DeviceError)
      (interval : Nat)
  | gaveUp (camera : CameraId) (attempts : Nat) (error : DeviceError)
  | simulatedOpen (camera : CameraId)
  | simulatedReleased (camera : CameraId)
  | unplugged (camera : CameraId)
  | logOpened (camera : CameraId)
  | logClosed (camera : CameraId)
  | logAsked (camera : CameraId)
  | logCloseCall (device : DeviceId)
deriving DecidableEq

namespace Event

/-- The level and text under which an event is logged, if it is. -/
def log? (n : Names) : Event → Option (Level × String)
  | .loopStarted => some (.info, "camera request loop started")
  | .loopStopped => some (.info, "camera request loop stopped")
  | .loopCrashed reason => some (.error, "camera request loop ended abnormally: " ++ reason)
  | .accepted _ => none
  | .refused _ => none
  | .requestDropped => some (.warn, "camera request dropped: request loop has stopped")
  | .pending k => some (.debug, toString k ++ " camera request(s) pending")
  | .serviced _ => none
  | .superseding k => some (.info, "close-all: closing " ++ toString k ++ " camera(s)")
  | .stale h c => some (.debug,
      "dropping stale open for camera " ++ c.text ++ " (handle " ++ n.handle h ++ ")")
  | .makingRoom k c => some (.info,
      "closing " ++ toString k ++ " camera(s) before opening camera " ++ c.text)
  | .replacing c => some (.info,
      "camera " ++ c.text ++ " closed outside the arbiter; replacing its session")
  | .stopping k => some (.info, "closing " ++ toString k ++ " camera(s) before stopping")
  | .permissionAsked c granted =>
    if granted then none
    else some (.warn, "cannot open camera " ++ c.text ++ ": camera permission not granted")
  | .openerAsked _ _ => none
  | .deviceOpened c _ => some (.info, "opened camera " ++ c.text)
  | .openGivenUp c => some (.warn, "failed to open camera " ++ c.text)
  | .handleFailed h c reason => some (.debug,
      "handle " ++ n.handle h ++ " for camera " ++ c.text ++ " failed: " ++ reason.message)
  | .handleDisconnected h c => some (.debug,
      "handle " ++ n.handle h ++ " for camera " ++ c.text ++ " disconnected")
  | .attached h c _ => some (.debug,
      "handle " ++ n.handle h ++ " attached to camera " ++ c.text)
  | .attachRefused h c => some (.debug,
      "handle " ++ n.handle h ++ " for camera " ++ c.text ++
        " resolved before attach; keeping current binding")
  | .sessionClosing c s => some (.info,
      "closing camera " ++ c.text ++ " (session " ++ n.session s ++ ")")
  | .idleCloseRequested c _ => some (.debug, "camera " ++ c.text ++ " idle; close requested")
  | .idleCloseRefused c _ => some (.warn,
      "camera " ++ c.text ++ " idle but the request queue is full; retrying later")
  | .sessionPruned _ => some (.debug, "device closed outside the arbiter; pruning its session")
  | .permissionGranted => some (.info, "camera permission granted")
  | .permissionRevoked => some (.info, "camera permission revoked")
  | .openedOnAttempt c i m => some (.info,
      "camera " ++ c.text ++ " opened on attempt " ++ toString i ++ "/" ++ toString m)
  | .attemptFailed c i m e interval => some (.warn,
      "open attempt " ++ toString i ++ "/" ++ toString m ++ " for camera " ++ c.text ++
        " failed: " ++ e.message ++ "; retrying in " ++ Text.durationText interval)
  | .gaveUp c k e => some (.error,
      "giving up on camera " ++ c.text ++ " after " ++ toString k ++ " attempt(s): " ++ e.message)
  | .simulatedOpen c => some (.debug, "simulated camera " ++ c.text ++ " open")
  | .simulatedReleased c => some (.debug, "simulated camera " ++ c.text ++ " released")
  | .unplugged c => some (.info, "camera " ++ c.text ++ " disconnected")
  | .logOpened _ => none
  | .logClosed _ => none
  | .logAsked _ => none
  | .logCloseCall _ => none

/-- The entry an event makes in the device log, if it makes one. -/
def deviceLine? : Event → Option String
  | .logOpened c => some ("opened " ++ c.text)
  | .logClosed c => some ("closed " ++ c.text)
  | .logAsked c => some ("open " ++ c.text)
  | .logCloseCall d => some ("close d" ++ toString d)
  | _ => none

/-- The log line of an event at `level` or above. -/
def line? (n : Names) (level : Level) (e : Event) : Option String :=
  match e.log? n with
  | some (l, text) => if l.rank ≤ level.rank then some (l.label ++ " " ++ text) else none
  | none => none

end Event

end CameraBroker
