import CameraBroker.Toml.Document
import CameraBroker.Toml.Moment
import CameraBroker.Toml.Quoted

/-! From the text of a document to its statements and to its table. -/
namespace CameraBroker.Toml

/-- How many keys a path may have, and one more than how deep arrays and inline tables may
lie in each other. -/
def depthLimit : Nat := 80

def isBare (c : Char) : Bool := c.isAlphanum || c = '-' || c = '_'

def bareName : Reader (List Char) := do
  let first ← one isBare
  let others ← run isBare
  pure (first :: others)

def key : Reader Key := do
  let (span, name) ← located (basicString <|> literalString <|> bareName)
  pure ⟨String.ofList name, span⟩

/-- Keys with dots between them: those of the tables that lead to the last key, and that key. -/
def keyPath : Reader (List Key × Key) := do
  let keys ← separated (expect ['.']) (blanks *> key <* blanks)
  if keys.length < depthLimit then
    match keys.getLast? with
    | some last => pure (keys.dropLast, last)
    | none => failure
  else failure

def boolean : Reader Bool :=
  (do expect "true".toList; pure true) <|> (do expect "false".toList; pure false)

def scalar : Reader Scalar :=
  (do pure (.string (String.ofList (← quoted)))) <|> (do moment; pure .moment) <|>
  (do pure (.number (← number))) <|> (do pure (.boolean (← boolean)))

def array (item : Reader Node) : Reader (List Node) := do
  expect ['[']
  let items ← maybe (separated (expect [',']) (gap *> item <* gap) <* maybe (expect [',']))
  gap
  expect [']']
  pure (items.getD [])

def assignment (item : Reader Node) : Reader Assignment := do
  let (path, key) ← keyPath
  expect ['=']
  blanks
  pure ⟨path, key, ← item⟩

/-- A table between braces, all on one line but for what its values contain. -/
def inlineTable (item : Reader Node) : Reader Table := do
  expect ['\x7b']
  let body ← maybe (separated (expect [',']) (assignment item <* blanks))
  blanks
  expect ['\x7d']
  liftM (Table.assignAll (body.getD []) (.empty .closed none))

/-- A value in which arrays and inline tables lie at most `depth` deep in each other. -/
def value : (depth : Nat) → Reader Node
  | 0 => do
    let (span, v) ← located scalar
    pure (.scalar span v)
  | depth + 1 =>
    (do
      let (span, items) ← located (array (value depth))
      pure (.array span items)) <|>
    (do
      let (span, t) ← located (inlineTable (value depth))
      pure (.table { t with span := some span })) <|>
    value 0

/-- A key with its value on a line of its own. -/
def statement : Reader Assignment := assignment (value (depthLimit - 1)) <* restOfLine

/-- A table's header between brackets, or an element's between double ones. -/
def header : Reader (Span × Bool × List Key × Key) :=
  located ((do
    expect ['[', '[']
    let path ← keyPath
    expect [']', ']']
    pure (true, path)) <|> (do
    expect ['[']
    let path ← keyPath
    expect [']']
    pure (false, path))) <* restOfLine

def tableSection : Reader Section := do
  let (span, isElement, path, key) ← header
  let body ← many (gap *> statement)
  pure ⟨isElement, span, path, key, body⟩

/-- A whole document, with a mark of the byte order in front maybe. -/
def document : Reader Document := do
  let _ ← maybe (expect ['\ufeff'])
  let top ← many (gap *> statement)
  let sections ← many (gap *> tableSection)
  gap
  pure ⟨top, sections⟩

/-- The table that a text describes, if the text is a document. -/
def Table.parse? (text : List Char) : Option Table := do
  (← whole? document text).table?

end CameraBroker.Toml
