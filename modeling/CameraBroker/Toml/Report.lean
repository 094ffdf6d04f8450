import CameraBroker.Mismatch
import CameraBroker.Toml.Reader

/-! Why a value does not fit, and the report that shows where it stands: line and column,
the line itself, and carets under the value as far as it goes on that line. -/
namespace CameraBroker.Toml

structure Fault where
  span : Span
  reason : Mismatch
deriving DecidableEq, Repr

/-- A place in a text: the line's number and its characters before the place, and the
characters of the whole line. Lines and columns count from zero. -/
structure Place where
  line : Nat
  before : List Char
  content : List Char
deriving DecidableEq, Repr

def Place.ofOffset (text : List Char) (offset : Nat) : Place :=
  let front := text.take offset
  let before := (front.reverse.takeWhile (· ≠ '\n')).reverse
  { line := front.count '\n'
    before
    content := before ++ (text.drop offset).takeWhile (· ≠ '\n') }

/-- How many bytes the encoded characters take. -/
def byteCount (cs : List Char) : Nat := (String.ofList cs).utf8ByteSize

/-- The number of carets: one for each byte of the value, but none beyond the line's end
counted from the column, and at least one. -/
def Place.carets (p : Place) (value : List Char) : Nat :=
  max 1 (min (byteCount value) (byteCount p.content - p.before.length))

def Fault.report (text : List Char) (f : Fault) : String :=
  let offset := text.length - f.span.start
  let value := (text.drop offset).take (f.span.start - f.span.stop)
  let p := Place.ofOffset text offset
  let number := toString (p.line + 1)
  let column := p.before.length
  let margin := String.ofList (List.replicate (number.length + 1) ' ') ++ "|"
  "TOML parse error at line " ++ number ++ ", column " ++ toString (column + 1) ++ "\n" ++
    margin ++ "\n" ++ number ++ " | " ++ String.ofList p.content ++ "\n" ++
    margin ++ " " ++ String.ofList (List.replicate column ' ') ++
    String.ofList (List.replicate (p.carets value) '^') ++ "\n" ++ f.reason.message ++ "\n"

end CameraBroker.Toml
