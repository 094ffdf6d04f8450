/-! Readers take a value off the front of a text and leave the rest. What every part of a
document needs of them: one character, a run of characters, a fixed text, repetition, and
where in the text a value stands. -/
namespace CameraBroker.Toml

/-- Takes a value off the front of a text, if one is there. -/
abbrev Reader := StateT (List Char) Option

/-- A piece of a text. Its ends are told by how many characters are left. -/
structure Span where
  start : Nat
  stop : Nat
deriving DecidableEq, Repr

/-- One character of a class. -/
def one (p : Char → Bool) : Reader Char
  | c :: rest => if p c then some (c, rest) else none
  | [] => none

/-- All characters of a class that stand in front, maybe none. -/
def run (p : Char → Bool) : Reader (List Char) := fun cs => some (cs.takeWhile p, cs.dropWhile p)

/-- Exactly this text. -/
def expect (s : List Char) : Reader Unit := fun cs =>
  if s.isPrefixOf cs then some ((), cs.drop s.length) else none

/-- Nothing is left. -/
def finish : Reader Unit
  | [] => some ((), [])
  | _ :: _ => none

/-- Values one after the other, as long as there is one that takes something. -/
def manyFrom (r : Reader α) (cs : List Char) : List α × List Char :=
  match r cs with
  | none => ([], cs)
  | some (a, rest) =>
    if _h : rest.length < cs.length then
      let others := manyFrom r rest
      (a :: others.1, others.2)
    else ([], cs)
termination_by cs.length

def many (r : Reader α) : Reader (List α) := fun cs => some (manyFrom r cs)

/-- One value or more with a separator between each two. -/
def separated (separator : Reader Unit) (item : Reader α) : Reader (List α) := do
  let first ← item
  let others ← many (separator *> item)
  pure (first :: others)

/-- The value, if it is there. -/
def maybe (r : Reader α) : Reader (Option α) := fun cs =>
  match r cs with
  | some (a, rest) => some (some a, rest)
  | none => some (none, cs)

/-- A value and the piece of the text that it takes. -/
def located (r : Reader α) : Reader (Span × α) := fun cs =>
  (r cs).map fun x => ((⟨cs.length, x.2.length⟩, x.1), x.2)

/-- The value of a reader that takes the whole text. -/
def whole? (r : Reader α) (cs : List Char) : Option α := ((r <* finish) cs).map (·.1)

theorem pure_apply (a : α) (cs : List Char) : (pure a : Reader α) cs = some (a, cs) := rfl

theorem map_apply (f : α → β) (r : Reader α) (cs : List Char) :
    (f <$> r) cs = (r cs).bind fun x => some (f x.1, x.2) := rfl

theorem bind_apply (r : Reader α) (f : α → Reader β) (cs : List Char) :
    (r >>= f) cs = (r cs).bind fun x => f x.1 x.2 := rfl

theorem orElse_apply (r s : Reader α) (cs : List Char) :
    (r <|> s) cs = (r cs).orElse fun _ => s cs := rfl

theorem expect_append (s rest : List Char) : expect s (s ++ rest) = some ((), rest) := by
  simp [expect]

theorem manyFrom_of_eq_none {r : Reader α} {cs : List Char} (h : r cs = none) :
    manyFrom r cs = ([], cs) := by
  rw [manyFrom, h]

theorem manyFrom_of_eq_some {r : Reader α} {cs rest : List Char} {a : α}
    (h : r cs = some (a, rest)) (shorter : rest.length < cs.length) :
    manyFrom r cs = (a :: (manyFrom r rest).1, (manyFrom r rest).2) := by
  rw [manyFrom, h]
  simp [shorter]

end CameraBroker.Toml
