import CameraBroker.CameraId

/-! The command line: which arguments there are, how words on the line are taken as options,
their values and cameras, and what is wrong with a line that cannot be. Values are checked
when the next known option follows or the line ends, so an unknown option is reported
before a bad value in front of it. -/
namespace CameraBroker.CommandLine

/-- The options. The first two take a value, the others stand alone. -/
inductive Flag where
  | config
  | holdMs
  | share
  | denyPermission
  | initConfig
  | help
  | version
deriving DecidableEq, Repr

namespace Flag

def all : List Flag := [.config, .share, .denyPermission, .holdMs, .initConfig, .help, .version]

def name : Flag → String
  | .config => "config"
  | .holdMs => "hold-ms"
  | .share => "share"
  | .denyPermission => "deny-permission"
  | .initConfig => "init-config"
  | .help => "help"
  | .version => "version"

/-- What the value of an option is called, if it takes one. -/
def valueName? : Flag → Option String
  | .config => some "CONFIG"
  | .holdMs => some "HOLD_MS"
  | _ => none

def letter? : Flag → Option Char
  | .help => some 'h'
  | .version => some 'V'
  | _ => none

/-- The variable that gives the value if the line does not. -/
def variableName? : Flag → Option String
  | .config => some "CAMERA_ARBITER_CONFIG"
  | .holdMs => some "CAMERA_ARBITER_HOLD_MS"
  | _ => none

/-- The option with its value, as messages show it. -/
def label (f : Flag) : String :=
  match f.valueName? with
  | some v => "--" ++ f.name ++ " <" ++ v ++ ">"
  | none => "--" ++ f.name

def ofName? (name : String) : Option Flag := all.find? fun f => f.name = name

def ofLetter? (c : Char) : Option Flag := all.find? fun f => f.letter? = some c

end Flag

/-- How messages call the words that are no option. -/
def camerasLabel : String := "[CAMERAS]..."

inductive Misuse where
  | unknown (argument : String)
  | missingValue (argument : String)
  | invalidValue (value argument reason : String)
  | repeated (argument : String)
  | unwantedValue (value argument : String)
deriving DecidableEq, Repr

def Misuse.message : Misuse → String
  | .unknown a => "unexpected argument '" ++ a ++ "' found"
  | .missingValue a => "a value is required for '" ++ a ++ "' but none was supplied"
  | .invalidValue v a reason => "invalid value '" ++ v ++ "' for '" ++ a ++ "': " ++ reason
  | .repeated a => "the argument '" ++ a ++ "' cannot be used multiple times"
  | .unwantedValue v a =>
    "unexpected value '" ++ v ++ "' for '" ++ a ++ "' found; no more were expected"

/-- Why a line does not give options: it asks for a text, or it is wrong. -/
inductive Stop where
  | help
  | version
  | misuse (cause : Misuse)
deriving DecidableEq, Repr

structure Options where
  config : Option String := none
  holdMs : Nat := 1500
  share : Bool := false
  denyPermission : Bool := false
  initConfig : Bool := false
  cameras : List CameraId := []
deriving DecidableEq

/-- The variables that the program looks at. -/
structure Environment where
  config : Option String := none
  holdMs : Option String := none
  settings : Option String := none
  home : Option String := none
deriving DecidableEq, Repr

def Environment.value? (env : Environment) : Flag → Option String
  | .config => env.config
  | .holdMs => env.holdMs
  | _ => none

namespace Options

/-- The options with the value of one. -/
def set (f : Flag) (value : String) (o : Options) : Except Misuse Options :=
  match f with
  | .config =>
    if value = "" then .error (.missingValue f.label) else .ok { o with config := some value }
  | .holdMs => match Decimal.parseBelow (Decimal.wordLimit 64) value with
    | .ok n => .ok { o with holdMs := n }
    | .error e => .error (.invalidValue value f.label e.message)
  | _ => .ok o

/-- The options with one that stands alone turned on. -/
def turnOn (f : Flag) (o : Options) : Except Stop Options :=
  match f with
  | .share => .ok { o with share := true }
  | .denyPermission => .ok { o with denyPermission := true }
  | .initConfig => .ok { o with initConfig := true }
  | .help => .error .help
  | .version => .error .version
  | .config => .ok o
  | .holdMs => .ok o

def addCamera (name : String) (o : Options) : Except Misuse Options :=
  match CameraId.parse name with
  | .ok c => .ok { o with cameras := o.cameras ++ [c] }
  | .error e => .error (.invalidValue name camerasLabel e.message)

end Options

/-- What was read last and is not checked yet. -/
inductive Pending where
  | nothing
  | setting (flag : Flag) (value : Option String)
  | cameras (names : List String)
deriving DecidableEq, Repr

/-- A line that has been read in part. -/
structure Draft where
  options : Options := {}
  given : List Flag := []
  pending : Pending := .nothing
deriving DecidableEq

namespace Draft

def fail (cause : Misuse) : Except Stop α := .error (.misuse cause)

/-- An option may be given once. -/
def note (f : Flag) (d : Draft) : Except Stop Draft :=
  if f ∈ d.given then fail (.repeated f.label) else .ok { d with given := f :: d.given }

def set (f : Flag) (value : String) (d : Draft) : Except Stop Draft := do
  let d ← d.note f
  let options ← (d.options.set f value).mapError .misuse
  pure { d with options }

def turnOn (f : Flag) (d : Draft) : Except Stop Draft := do
  let d ← d.note f
  let options ← d.options.turnOn f
  pure { d with options }

/-- Checks what is pending. -/
def settle (d : Draft) : Except Stop Draft :=
  let rest := { d with pending := .nothing }
  match d.pending with
  | .nothing => .ok rest
  | .setting f none => fail (.missingValue f.label)
  | .setting f (some value) => rest.set f value
  | .cameras names => do
    let options ← (names.foldlM (fun (o : Options) name => o.addCamera name) d.options).mapError .misuse
    pure { rest with options }

/-- The name of a long option, and the value behind an equals sign. -/
def splitValue (text : List Char) : String × Option String :=
  let name := String.ofList (text.takeWhile (· ≠ '='))
  match text.dropWhile (· ≠ '=') with
  | [] => (name, none)
  | _ :: value => (name, some (String.ofList value))

def long (text : List Char) (d : Draft) : Except Stop Draft :=
  let (name, value) := splitValue text
  match Flag.ofName? name with
  | none => fail (.unknown ("--" ++ name))
  | some f => match f.valueName?, value with
    | some _, some value => do (← d.settle).set f value
    | some _, none => do pure { ← d.settle with pending := .setting f none }
    | none, some value => fail (.unwantedValue value f.label)
    | none, none => do (← d.settle).turnOn f

/-- All options with a letter stand alone and end the line, so its first letter decides. -/
def short (letter : Char) (d : Draft) : Except Stop Draft :=
  match Flag.ofLetter? letter with
  | none => fail (.unknown (String.ofList ['-', letter]))
  | some f => do (← d.settle).turnOn f

def camera (name : String) (d : Draft) : Except Stop Draft :=
  match d.pending with
  | .cameras names => .ok { d with pending := .cameras (names ++ [name]) }
  | _ => do pure { ← d.settle with pending := .cameras [name] }

/-- A word that is no option is the value of the one before it or else a camera. -/
def word (text : String) (d : Draft) : Except Stop Draft :=
  match d.pending with
  | .setting f none => .ok { d with pending := .setting f (some text) }
  | _ => d.camera text

/-- After two dashes alone every word is a camera. -/
def read : List String → Draft → Except Stop Draft
  | [], d => d.settle
  | text :: rest, d => match text.toList with
    | ['-', '-'] => do (← rest.foldlM (fun d name => d.camera name) d).settle
    | '-' :: '-' :: name => do read rest (← d.long name)
    | '-' :: letter :: _ => do read rest (← d.short letter)
    | _ => do read rest (← d.word text)

/-- A variable counts if its option was not given. -/
def consult (env : Environment) (f : Flag) (d : Draft) : Except Stop Draft :=
  match env.value? f with
  | some value => if f ∈ d.given then .ok d else d.set f value
  | none => .ok d

end Draft

def parse (env : Environment) (args : List String) : Except Stop Options := do
  let d ← Draft.read args {}
  let d ← d.consult env .config
  let d ← d.consult env .holdMs
  pure d.options

end CameraBroker.CommandLine
