import CameraBroker.Toml.Quoted

/-! How documents are written: tables of strings, whole numbers and lists of strings. A string
is written so that it needs as few escapes as possible: between double quotes as it is,
else between single quotes as it is, else over several lines, and with escapes last. -/
namespace CameraBroker.Toml

/-- The forms of a string. -/
inductive Form where
  | basic
  | literal
  | basicLines
  | literalLines
deriving DecidableEq, Repr

/-- The longest unbroken row of `q` in a text, given the length of the row just before it. -/
def longestRow (q : Char) : (row : Nat) → List Char → Nat
  | row, [] => row
  | row, c :: rest =>
    if c = q then longestRow q (row + 1) rest else max row (longestRow q 0 rest)

/-- A character that only an escape can give. -/
def needsEscape (c : Char) : Bool := !isVisible c && c ≠ '\n'

/-- The first form that shows the text as it is, or else one with escapes. -/
def Form.of (s : List Char) : Form :=
  let codes := s.any needsEscape
  let backslash := s.contains '\\'
  let newline := s.contains '\n'
  let double := longestRow '"' 0 s
  let single := longestRow '\'' 0 s
  if !codes && !backslash && double = 0 && !newline then .basic
  else if !codes && single = 0 && !newline then .literal
  else if !codes && !backslash && double ≤ 2 then .basicLines
  else if !codes && single ≤ 2 then .literalLines
  else if newline then .basicLines
  else .basic

/-- The four digits of a control character's code. -/
def fourDigits (n : Nat) : List Char :=
  [n / 4096 % 16, n / 256 % 16, n / 16 % 16, n % 16].map fun d =>
    if d < 10 then Char.ofNat (48 + d) else Char.ofNat (55 + d)

/-- A character between double quotes. Of the characters with a letter a line end stands for
itself where the string may have lines. -/
def spelled (multiline : Bool) (c : Char) : List Char :=
  if c = '\n' ∧ multiline then ['\n']
  else match letters.find? fun x => x.2 = c with
    | some x => ['\\', x.1]
    | none => if needsEscape c then '\\' :: 'u' :: fourDigits c.toNat else [c]

/-- A text between double quotes. At most `room` quotes in a row stand without a backslash,
and `row` of them came just before. -/
def spelledOut (multiline : Bool) (room : Nat) : (row : Nat) → List Char → List Char
  | _, [] => []
  | row, c :: rest =>
    if c = '"' then
      if row < room then '"' :: spelledOut multiline room (row + 1) rest
      else '\\' :: '"' :: spelledOut multiline room 0 rest
    else spelled multiline c ++ spelledOut multiline room 0 rest

/-- A line end after the opening quotes, where the text has lines. -/
def opening (s : List Char) : List Char := if s.contains '\n' then ['\n'] else []

def Form.write (s : List Char) : Form → List Char
  | .basic => '"' :: spelledOut false 0 0 s ++ ['"']
  | .literal => '\'' :: s ++ ['\'']
  | .basicLines => ['"', '"', '"'] ++ opening s ++ spelledOut true 2 0 s ++ ['"', '"', '"']
  | .literalLines => ['\'', '\'', '\''] ++ opening s ++ s ++ ['\'', '\'', '\'']

def writeString (s : String) : List Char := (Form.of s.toList).write s.toList

/-- A value as it is written. -/
inductive Entry where
  | string (s : String)
  | number (n : Nat)
  | strings (items : List String)
deriving DecidableEq, Repr

/-- Two strings or more stand on lines of their own, each with a comma behind it. -/
def writeStrings : List String → List Char
  | [] => ['[', ']']
  | [s] => '[' :: writeString s ++ [']']
  | items => ['[', '\n'] ++
    items.flatMap (fun s => "    ".toList ++ writeString s ++ [',', '\n']) ++ [']']

/-- A number is written if a reader will take it. -/
def Entry.write? : Entry → Option (List Char)
  | .string s => some (writeString s)
  | .number n => if n < Decimal.wordLimit 63 then some (toString n).toList else none
  | .strings items => some (writeStrings items)

/-- A header and an entry on each line below it. -/
def writeSection? (name : String) (entries : List (String × Entry)) : Option (List Char) := do
  let lines ← entries.mapM fun e => do
    pure (e.1.toList ++ " = ".toList ++ (← e.2.write?) ++ ['\n'])
  pure ('[' :: name.toList ++ [']', '\n'] ++ lines.flatten)

/-- Sections with an empty line between each two. -/
def writeDocument? (sections : List (String × List (String × Entry))) : Option (List Char) := do
  pure (['\n'].intercalate (← sections.mapM fun s => writeSection? s.1 s.2))

end CameraBroker.Toml
