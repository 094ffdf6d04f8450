import CameraBroker.Toml.Number
import CameraBroker.Toml.Spacing

/-! Strings in a document. Double quotes allow for escapes and single quotes do not. Three
quotes let a string run over several lines, and the first line end after them is dropped. -/
namespace CameraBroker.Toml

/-- Characters that stand for themselves between double quotes. -/
def isPlain (c : Char) : Bool := isVisible c && c ≠ '"' && c ≠ '\\'

/-- Characters that stand for themselves between single quotes. -/
def isVerbatim (c : Char) : Bool := isVisible c && c ≠ '\''

/-- The characters with a letter of their own behind a backslash. -/
def letters : List (Char × Char) := [
  ('b', '\x08'), ('t', '\t'), ('n', '\n'), ('f', '\x0c'), ('r', '\r'), ('"', '"'), ('\\', '\\')]

/-- A character given by the hexadecimal digits of its code point. -/
def codePoint (width : Nat) : Reader Char := do
  let ds ← fixed width
  let n := baseValue 16 ds
  if h : n.isValidChar then pure (Char.ofNatAux n h) else failure
where
  fixed : Nat → Reader (List Char)
    | 0 => pure []
    | width + 1 => do
      let c ← one isHexDigit
      let rest ← fixed width
      pure (c :: rest)

/-- A character spelled with a backslash. -/
def escape : Reader Char := do
  expect ['\\']
  let mark ← one fun _ => true
  match letters.lookup mark with
  | some c => pure c
  | none =>
    if mark = 'u' then codePoint 4 else if mark = 'U' then codePoint 8 else failure

/-- A backslash at the end of a line, with all blanks and line ends that follow. -/
def continuation : Reader Unit := do
  expect ['\\']
  blanks
  lineEnd
  let _ ← many ((do let _ ← one isBlank) <|> lineEnd)

def basicString : Reader (List Char) := do
  expect ['"']
  let cs ← many (one isPlain <|> escape)
  expect ['"']
  pure cs

def literalString : Reader (List Char) := do
  expect ['\'']
  let cs ← run isVerbatim
  expect ['\'']
  pure cs

/-- A quote that is not the first of three. -/
def loneQuote (q : Char) : Reader Char := fun cs =>
  if [q, q, q].isPrefixOf cs then none else one (· = q) cs

/-- Three quotes, before which one or two more belong to the text. -/
def closing (q : Char) : Reader (List Char) :=
  (do expect [q, q, q, q, q]; pure [q, q]) <|> (do expect [q, q, q, q]; pure [q]) <|>
  (do expect [q, q, q]; pure [])

/-- A string over several lines, given how a piece of it is read. -/
def lines (q : Char) (piece : Reader (List Char)) : Reader (List Char) := do
  expect [q, q, q]
  let _ ← maybe lineEnd
  let pieces ← many ((do pure [← loneQuote q]) <|> (do lineEnd; pure ['\n']) <|> piece)
  let last ← closing q
  pure (pieces.flatten ++ last)

def basicLines : Reader (List Char) :=
  lines '"' ((do pure [← one isPlain]) <|> (do continuation; pure []) <|> (do pure [← escape]))

def literalLines : Reader (List Char) := lines '\'' (do pure [← one isVerbatim])

/-- Three quotes alone add nothing to the text. -/
theorem closing_three (q : Char) (rest : List Char) (h : rest.head? ≠ some q) :
    closing q ([q, q, q] ++ rest) = some ([], rest) := by
  cases rest with
  | nil => simp [closing, expect, orElse_apply, map_apply]
  | cons c rest =>
    have hc : ¬q = c := fun e => h (by simp [e])
    simp [closing, expect, hc, orElse_apply, map_apply]

/-- A string in any of its forms. -/
def quoted : Reader (List Char) := basicLines <|> literalLines <|> basicString <|> literalString

end CameraBroker.Toml
