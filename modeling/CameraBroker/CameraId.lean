import CameraBroker.Mismatch
import CameraBroker.Text.Blank

/-! Camera ids: texts that are not empty and hold no blank, ordered by code point. -/
namespace CameraBroker

/-- Not empty and free of blanks. -/
def isCameraName (s : String) : Bool := s ≠ "" && s.toList.all fun c => !Text.isBlank c

structure CameraId where
  text : String
  valid : isCameraName text = true
deriving DecidableEq

inductive CameraIdError where
  | empty
  | containsBlank (text : String)
deriving DecidableEq, Repr

def CameraIdError.message : CameraIdError → String
  | .empty => "camera id must not be empty"
  | .containsBlank s => "camera id must not contain whitespace: " ++ Text.quote s

namespace CameraId

def parse (s : String) : Except CameraIdError CameraId :=
  if h : isCameraName s = true then .ok ⟨s, h⟩
  else if s = "" then .error .empty
  else .error (.containsBlank s)

/-- The id itself when the text is one. -/
def parse? (s : String) : Option CameraId := (parse s).toOption

/-- An id inside structured data is a string that parses. -/
def decode : Found → Except Mismatch CameraId
  | .string s => (parse s).mapError fun e => .refused e.message
  | found => .error (.kind found "a string")

def inspect (c : CameraId) : String := "CameraId(" ++ Text.quote c.text ++ ")"

/-- Code points decide, as bytes of the encoded text would. -/
def order (a b : CameraId) : Ordering := compare a.text b.text

/-- In order and without repetition. -/
def sortDistinct (ids : List CameraId) : List CameraId :=
  (ids.mergeSort fun a b => (order a b).isLE).eraseReps

theorem parse_text (c : CameraId) : parse c.text = .ok c := by
  simp [parse, c.valid]

theorem text_of_parse {s : String} {c : CameraId} (h : parse s = .ok c) : c.text = s := by
  unfold parse at h
  split at h
  · cases h; rfl
  · split at h <;> cases h

end CameraId

end CameraBroker
