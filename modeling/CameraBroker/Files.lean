import CameraBroker.Path

/-! Access to files, and a small tree of files as the plainest thing that gives it. Paths that
do not start at the top start at the place where the program runs. -/
namespace CameraBroker

inductive FileError where
  | notFound
  | exists
  | notDirectory
  | isDirectory
  | notText
  | other (reason : String)
deriving DecidableEq, Repr

def FileError.message : FileError → String
  | .notFound => "No such file or directory (os error 2)"
  | .exists => "File exists (os error 17)"
  | .notDirectory => "Not a directory (os error 20)"
  | .isDirectory => "Is a directory (os error 21)"
  | .notText => "stream did not contain valid UTF-8"
  | .other reason => reason

/-- A monad in which files can be read and written. -/
class FileAccess (m : Type → Type) where
  read : String → m (Except FileError ByteArray)
  /-- Makes a directory and those that lead to it, as far as they are missing. -/
  makeDirectories : String → m (Except FileError Unit)
  /-- Replaces what the file held. -/
  write : String → ByteArray → m (Except FileError Unit)

inductive FileNode where
  | directory
  | file (content : ByteArray)

/-- Nodes under their steps from the top, which is a directory itself. -/
structure Files where
  here : List String := []
  nodes : List (List String × FileNode) := []

namespace Files

def node? (place : List String) (fs : Files) : Option FileNode :=
  if place = [] then some .directory else fs.nodes.lookup place

def put (place : List String) (n : FileNode) (fs : Files) : Files :=
  { fs with nodes := (place, n) :: fs.nodes.filter fun x => x.1 ≠ place }

def start (path : String) (fs : Files) : List String :=
  if path.startsWith "/" then [] else fs.here

/-- One step on from a directory. -/
def next (place : List String) (step : String) : List String :=
  if step = ".." then place.dropLast else place ++ [step]

/-- Where steps lead. Every place that they pass must be a directory. -/
def walk (fs : Files) : (place : List String) → List String → Except FileError (List String)
  | place, [] => .ok place
  | place, step :: rest =>
    match fs.node? place with
    | none => .error .notFound
    | some (.file _) => .error .notDirectory
    | some .directory => walk fs (next place step) rest

/-- The place that a path names. No path is empty. -/
def locate (path : String) (fs : Files) : Except FileError (List String) :=
  if path = "" then .error .notFound else fs.walk (fs.start path) (Path.steps path)

def read (path : String) (fs : Files) : Except FileError ByteArray := do
  match fs.node? (← fs.locate path) with
  | none => throw .notFound
  | some .directory => throw .isDirectory
  | some (.file content) => if path.endsWith "/" then throw .notDirectory else pure content

def write (path : String) (content : ByteArray) (fs : Files) : Except FileError Files := do
  let place ← fs.locate path
  match fs.node? place with
  | some .directory => throw .isDirectory
  | some (.file _) =>
    if path.endsWith "/" then throw .notDirectory else pure (fs.put place (.file content))
  | none => if path.endsWith "/" then throw .isDirectory else pure (fs.put place (.file content))

/-- Goes down the steps and makes the directories that are missing. -/
def descend (place : List String) : List String → Files → Except FileError Files
  | [], fs => .ok fs
  | step :: rest, fs =>
    match fs.node? (next place step) with
    | none => descend (next place step) rest (fs.put (next place step) .directory)
    | some .directory => descend (next place step) rest fs
    | some (.file _) => .error (if rest = [] then .exists else .notDirectory)

def makeDirectories (path : String) (fs : Files) : Except FileError Files :=
  descend (fs.start path) (Path.steps path) fs

theorem node?_put {place : List String} (h : place ≠ []) (n : FileNode) (fs : Files) :
    (fs.put place n).node? place = some n := by
  simp [put, node?, h]

/-- An action that changes the tree unless it fails. -/
def run (f : Files → Except FileError Files) : StateM Files (Except FileError Unit) := fun fs =>
  match f fs with
  | .ok fs => (.ok (), fs)
  | .error e => (.error e, fs)

instance : FileAccess (StateM Files) where
  read path := fun fs => (fs.read path, fs)
  makeDirectories path := run (·.makeDirectories path)
  write path content := run (·.write path content)

end Files

end CameraBroker
