import CameraBroker.CommandLine.Help
import CameraBroker.Config.File
import CameraBroker.Demonstration

/-! What the program does with a command line: prints a text about itself, writes a file with
the default settings, or loads the settings and runs a demonstration. -/
namespace CameraBroker.CommandLine

/-- The exit code and what was printed to either side. -/
structure Outcome where
  exit : Nat := 0
  output : String := ""
  complaint : String := ""
deriving DecidableEq, Repr

/-- Why a run ends early. -/
inductive Failure where
  | noLocation
  | unwritten (path : String)
  | unloaded (path : String)
  | badCamera
  | overflow
deriving DecidableEq, Repr

def Failure.message : Failure → String
  | .noLocation => "Error: no --config given and no platform config dir"
  | .unwritten path => "Error: failed to write " ++ path
  | .unloaded path => "Error: failed to load " ++ path
  | .badCamera => "Error: invalid camera id in [simulator] cameras"
  | .overflow => "\n" ++ Refusal.overflow

def Failure.exit : Failure → Nat
  | .overflow => 101
  | _ => 1

def Failure.outcome (f : Failure) : Outcome := { exit := f.exit, complaint := f.message ++ "\n" }

def Stop.outcome (env : Environment) : Stop → Outcome
  | .help => { output := helpText env }
  | .version => { output := versionText }
  | .misuse cause => { exit := 2, complaint := "error: " ++ cause.message ++ "\n" }

namespace Options

def configPath (env : Environment) (o : Options) : Except Failure String :=
  match o.config with
  | some path => .ok path
  | none => (Config.location env.settings env.home).mapError fun _ => .noLocation

/-- The cameras of the line, or else all that the settings name. -/
def chosen (config : Config) (o : Options) : Except Failure (List CameraId) :=
  if o.cameras ≠ [] then .ok o.cameras
  else match config.cameras.mapM CameraId.parse? with
    | some cameras => .ok cameras
    | none => .error .badCamera

def demonstration (config : Config) (o : Options) : Except Failure Demonstration := do
  let cameras ← o.chosen config
  pure ⟨config, cameras, o.share, !o.denyPermission, o.holdMs⟩

/-- The device log of a demonstration, a line for each entry. -/
def demonstrate (config : Config) (o : Options) : Except Failure String := do
  let demonstration ← o.demonstration config
  match demonstration.deviceLog with
  | .ok entries => pure (String.join ("device log:\n" :: entries.map fun e => "  " ++ e ++ "\n"))
  | .error _ => throw .overflow

variable {m : Type → Type} [Monad m] [FileAccess m]

def writeDefaults (path : String) : m (Except Failure String) := do
  match ← Config.save path {} with
  | .ok () => pure (.ok ("wrote default config to " ++ path ++ "\n"))
  | .error _ => pure (.error (.unwritten path))

def run (env : Environment) (o : Options) : m (Except Failure String) := do
  match o.configPath env with
  | .error e => pure (.error e)
  | .ok path =>
    if o.initConfig then writeDefaults path
    else match ← Config.load path with
      | .error _ => pure (.error (.unloaded path))
      | .ok config => pure (o.demonstrate config)

end Options

variable {m : Type → Type} [Monad m] [FileAccess m]

def outcome (env : Environment) (args : List String) : m Outcome := do
  match parse env args with
  | .error stop => pure (stop.outcome env)
  | .ok o => match ← o.run env with
    | .ok output => pure { output }
    | .error e => pure e.outcome

end CameraBroker.CommandLine
