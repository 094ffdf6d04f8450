import CameraBroker.CommandLine.Outcome

/-! The program: the arguments, variables and files of the system, and what the library makes
of them. Time is simulated, so a run does not wait. -/
namespace CameraBroker

def FileError.ofSystem : IO.Error → FileError
  | .noFileOrDirectory .. => .notFound
  | .alreadyExists .. => .exists
  | e => .other (toString e)

/-- What an action yields, or why it failed. -/
def attempt (action : IO α) : IO (Except FileError α) := do
  try pure (.ok (← action)) catch e => pure (.error (.ofSystem e))

instance : FileAccess IO where
  read path := attempt (IO.FS.readBinFile path)
  makeDirectories path := attempt (if path = "" then pure () else IO.FS.createDirAll path)
  write path content := attempt (IO.FS.writeBinFile path content)

def readEnvironment : IO CommandLine.Environment := do
  pure { config := ← IO.getEnv "CAMERA_ARBITER_CONFIG"
         holdMs := ← IO.getEnv "CAMERA_ARBITER_HOLD_MS"
         settings := ← IO.getEnv "XDG_CONFIG_HOME"
         home := ← IO.getEnv "HOME" }

end CameraBroker

def main (args : List String) : IO UInt32 := do
  let env ← CameraBroker.readEnvironment
  let r : CameraBroker.CommandLine.Outcome ← CameraBroker.CommandLine.outcome env args
  IO.print r.output
  IO.eprint r.complaint
  pure r.exit.toUInt32
