import CameraBroker.CameraId
import CameraBroker.Text.Duration

/-! Opening a device with bounded retries: which failures may pass, when another attempt
follows, and a whole call against a list of outcomes. -/
namespace CameraBroker

inductive DeviceError where
  | notFound (camera : CameraId)
  | busy (camera : CameraId)
  | disconnected (camera : CameraId) (reason : String)
deriving DecidableEq

namespace DeviceError

def message : DeviceError → String
  | .notFound c => "camera " ++ c.text ++ " does not exist"
  | .busy c => "camera " ++ c.text ++ " is in use by another process"
  | .disconnected c reason => "camera " ++ c.text ++ " disconnected while opening: " ++ reason

/-- The failure may pass: another attempt can succeed. -/
def isRetryable : DeviceError → Bool
  | .notFound _ => false
  | .busy _ => true
  | .disconnected _ _ => true

def inspect : DeviceError → String
  | .notFound c => "NotFound(" ++ c.inspect ++ ")"
  | .busy c => "Busy(" ++ c.inspect ++ ")"
  | .disconnected c reason =>
    "Disconnected \x7b camera_id: " ++ c.inspect ++ ", reason: " ++ Text.quote reason ++ " \x7d"

end DeviceError

/-- How often a device open is tried and how long the pause between two tries is. -/
structure RetryPolicy where
  maxAttempts : Nat := 3
  interval : Nat := 250
deriving DecidableEq, Repr

/-- What follows a failed attempt. -/
inductive Verdict where
  | again
  | giveUp
deriving DecidableEq, Repr

namespace RetryPolicy

/-- There is always a first attempt. -/
def attempts (p : RetryPolicy) : Nat := max p.maxAttempts 1

/-- Attempt number `attempt` failed with `e`. -/
def judge (p : RetryPolicy) (attempt : Nat) (e : DeviceError) : Verdict :=
  if e.isRetryable && attempt < p.attempts then .again else .giveUp

def inspect (p : RetryPolicy) : String :=
  "RetryPolicy \x7b max_attempts: " ++ toString p.maxAttempts ++ ", retry_interval: " ++
    Text.durationText p.interval ++ " \x7d"

end RetryPolicy

end CameraBroker
