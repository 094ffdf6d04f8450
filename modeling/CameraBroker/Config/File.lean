import CameraBroker.Config.Written
import CameraBroker.Files

/-! Settings in a file: where it lies, how it is loaded and how it is saved. A file that is
missing stands for the defaults. -/
namespace CameraBroker

inductive ConfigError where
  | noDirectory
  | io (path : String) (cause : FileError)
  | unreadable (cause : Unreadable)
  | tooLarge
deriving DecidableEq, Repr

def ConfigError.message : ConfigError → String
  | .noDirectory => "could not determine platform config directory"
  | .io path cause => "I/O error accessing config at " ++ path ++ ": " ++ cause.message
  | .unreadable .malformed => "failed to parse config TOML: not a document"
  | .unreadable (.fault report) => "failed to parse config TOML: " ++ report
  | .tooLarge => "failed to serialize config: out-of-range value for u64 type"

namespace Config

/-- The file below the user's directory for settings, which has a name of its own or else
lies in the home directory. A name that is empty counts. -/
def location (settings home : Option String) : Except ConfigError String :=
  match settings.orElse fun _ => home.map (Path.join · ".config") with
  | none => .error .noDirectory
  | some base => .ok (Path.join (Path.join base "camera-arbiter") "config.toml")

def ofBytes (path : String) (bytes : ByteArray) : Except ConfigError Config :=
  match String.fromUTF8? bytes with
  | none => .error (.io path .notText)
  | some text => (parse text).mapError .unreadable

variable {m : Type → Type} [Monad m] [FileAccess m]

def load (path : String) : m (Except ConfigError Config) := do
  match ← FileAccess.read path with
  | .ok bytes => pure (ofBytes path bytes)
  | .error .notFound => pure (.ok {})
  | .error e => pure (.error (.io path e))

/-- Replaces the file's content. Nothing but directories is touched unless the settings can
be written. -/
def write (path : String) (c : Config) : m (Except ConfigError Unit) := do
  match c.text? with
  | none => pure (.error .tooLarge)
  | some text => do
    pure ((← FileAccess.write path text.toUTF8).mapError (.io path))

/-- Makes the directories that lead to the file and then writes it. -/
def save (path : String) (c : Config) : m (Except ConfigError Unit) := do
  match Path.parent? path with
  | none => c.write path
  | some parent =>
    match ← FileAccess.makeDirectories parent with
    | .error e => pure (.error (.io parent e))
    | .ok () => c.write path

end Config

end CameraBroker
