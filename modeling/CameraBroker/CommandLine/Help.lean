import CameraBroker.CommandLine

/-! The texts that the program prints about itself. -/
namespace CameraBroker.CommandLine

def programName : String := "camera-arbiter"

def versionText : String := programName ++ " 0.1.0\n"

def Flag.purpose : Flag → String
  | .config => "Config file to use instead of the platform default"
  | .holdMs => "How long to keep the cameras open before closing everything"
  | .share => "Open cameras in share mode, so earlier cameras stay open"
  | .denyPermission => "Run as if camera permission had not been granted"
  | .initConfig => "Write a default config file to the config path and exit"
  | .help => "Print help"
  | .version => "Print version"

/-- The variable of an option with its present value, and the default. -/
def Flag.remarks (env : Environment) (f : Flag) : String :=
  (match f.variableName? with
    | some name => " [env: " ++ name ++ "=" ++ (env.value? f).getD "" ++ "]"
    | none => "") ++
  match f with
  | .holdMs => " [default: " ++ toString ({} : Options).holdMs ++ "]"
  | _ => ""

/-- A text with blanks behind it up to a width. -/
def padded (width : Nat) (s : String) : String :=
  s ++ String.ofList (List.replicate (width - s.length) ' ')

def Flag.row (env : Environment) (f : Flag) : String :=
  let width := ((all.map fun g => g.label.length).max?).getD 0
  let letter := match f.letter? with
    | some c => String.ofList ['-', c, ',']
    | none => "   "
  "  " ++ letter ++ " " ++ padded width f.label ++ "  " ++ f.purpose ++ f.remarks env ++ "\n"

def helpText (env : Environment) : String :=
  "Opens simulated cameras through the camera session arbiter\n\n" ++
  "Usage: " ++ programName ++ " [OPTIONS] " ++ camerasLabel ++ "\n\n" ++
  "Arguments:\n" ++
  "  " ++ camerasLabel ++ "  Cameras to open, in order.  Defaults to every simulated camera\n\n" ++
  "Options:\n" ++ String.join (Flag.all.map fun f => f.row env)

end CameraBroker.CommandLine
