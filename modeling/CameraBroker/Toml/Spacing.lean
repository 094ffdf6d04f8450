import CameraBroker.Toml.Reader

/-! What may stand between the parts of a document: blanks within a line, and comments and
line ends between lines. -/
namespace CameraBroker.Toml

def isBlank (c : Char) : Bool := c = ' ' || c = '\t'

/-- Characters that may stand in a comment: no control character but the tabulator. -/
def isVisible (c : Char) : Bool := c = '\t' || (' ' ≤ c && c ≠ '\x7f')

def blanks : Reader Unit := do
  let _ ← run isBlank
  pure ()

def lineEnd : Reader Unit := expect ['\n'] <|> expect ['\r', '\n']

def comment : Reader Unit := do
  expect ['#']
  let _ ← run isVisible
  pure ()

/-- Blanks, comments and line ends in any number. -/
def gap : Reader Unit := do
  let _ ← many ((do let _ ← one isBlank) <|> lineEnd <|> comment)
  pure ()

/-- The rest of a line after its statement. -/
def restOfLine : Reader Unit := do
  blanks
  let _ ← maybe comment
  lineEnd <|> finish

end CameraBroker.Toml
