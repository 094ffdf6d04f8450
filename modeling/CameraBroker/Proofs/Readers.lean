import CameraBroker.Toml.Spacing
import Mathlib.Data.List.Forall2

/-! What a reader does in front of a known text: sequences and choices of readers, single
characters and runs of them, repetition over a text that is made of pieces, and what may
stand between the parts of a document. -/
namespace CameraBroker.Toml
variable {α β : Type}

theorem seqLeft_apply (r : Reader α) (s : Reader β) (cs : List Char) :
    (r <* s) cs = (r cs).bind fun x => (s x.2).bind fun y => some (x.1, y.2) := rfl

theorem seqRight_apply (r : Reader α) (s : Reader β) (cs : List Char) :
    (r *> s) cs = (r cs).bind fun x => s x.2 := rfl

theorem failure_apply (cs : List Char) : (failure : Reader α) cs = none := rfl

theorem seqLeft_of_eq_some {r : Reader α} {s : Reader β} {cs mid rest : List Char} {a : α} {b : β}
    (first : r cs = some (a, mid)) (second : s mid = some (b, rest)) :
    (r <* s) cs = some (a, rest) := by
  simp [seqLeft_apply, first, second]

theorem seqRight_of_eq_some {r : Reader α} {s : Reader β} {cs rest : List Char} {a : α}
    (first : r cs = some (a, rest)) : (r *> s) cs = s rest := by
  simp [seqRight_apply, first]

theorem liftM_apply (a? : Option α) (cs : List Char) :
    (liftM a? : Reader α) cs = a?.map fun a => (a, cs) := by
  cases a? <;> rfl

theorem bind_of_eq_some {r : Reader α} {f : α → Reader β} {cs rest : List Char} {a : α}
    (h : r cs = some (a, rest)) : (r >>= f) cs = f a rest := by
  simp [bind_apply, h]

theorem bind_eq_none {r : Reader α} {f : α → Reader β} {cs : List Char}
    (h : ∀ a rest, r cs = some (a, rest) → f a rest = none) : (r >>= f) cs = none := by
  rw [bind_apply]
  cases result : r cs with
  | none => rfl
  | some x => exact h x.1 x.2 result

theorem bind_of_eq_none {r : Reader α} {f : α → Reader β} {cs : List Char} (h : r cs = none) :
    (r >>= f) cs = none := bind_eq_none (by simp [h])

theorem orElse_of_eq_some {r s : Reader α} {cs : List Char} {x : α × List Char}
    (h : r cs = some x) : (r <|> s) cs = some x := by
  simp [orElse_apply, h]

theorem orElse_of_eq_none {r s : Reader α} {cs : List Char} (h : r cs = none) :
    (r <|> s) cs = s cs := by
  simp [orElse_apply, h]

theorem maybe_of_eq_some {r : Reader α} {cs rest : List Char} {a : α}
    (h : r cs = some (a, rest)) : maybe r cs = some (some a, rest) := by
  simp [maybe, h]

theorem maybe_of_eq_none {r : Reader α} {cs : List Char} (h : r cs = none) :
    maybe r cs = some (none, cs) := by
  simp [maybe, h]

theorem located_of_eq_some {r : Reader α} {cs rest : List Char} {a : α}
    (h : r cs = some (a, rest)) :
    located r cs = some ((⟨cs.length, rest.length⟩, a), rest) := by
  simp [located, h]

theorem located_of_eq_none {r : Reader α} {cs : List Char} (h : r cs = none) :
    located r cs = none := by
  simp [located, h]

section characters
variable {p : Char → Bool} {c d : Char} {s rest : List Char}

theorem one_cons (h : p c) : one p (c :: rest) = some (c, rest) := by
  simp [one, h]

theorem one_eq_none (h : ∀ c ∈ rest.head?, p c = false) : one p rest = none := by
  cases rest with
  | nil => rfl
  | cons c rest => simp [one, h c (by simp)]

theorem run_append (all : ∀ c ∈ s, p c) (stop : ∀ c ∈ rest.head?, p c = false) :
    run p (s ++ rest) = some (s, rest) := by
  have none_left : rest.takeWhile p = [] ∧ rest.dropWhile p = rest := by
    cases rest with
    | nil => simp
    | cons c rest => simp [stop c (by simp)]
  simp [run, List.takeWhile_append_of_pos all, List.dropWhile_append_of_pos all, none_left]

theorem expect_cons (c : Char) (s rest : List Char) :
    expect (c :: s) (c :: rest) = expect s rest := by
  simp [expect]

theorem expect_nil (rest : List Char) : expect [] rest = some ((), rest) := by
  simp [expect]

theorem expect_singleton (c : Char) (rest : List Char) :
    expect [c] (c :: rest) = some ((), rest) := expect_append [c] rest

theorem expect_eq_none (h : ∀ d ∈ rest.head?, d ≠ c) : expect (c :: s) rest = none := by
  cases rest with
  | nil => simp [expect]
  | cons d rest =>
    have ne : ¬c = d := fun e => h d (by simp) e.symm
    simp [expect, ne]

end characters

theorem many_of_eq_none {r : Reader α} {cs : List Char} (h : r cs = none) :
    many r cs = some ([], cs) := by
  rw [many, manyFrom_of_eq_none h]

/-- One more value, if it takes something. -/
theorem many_append {r : Reader α} {t tail rest : List Char} {a : α} {as : List α}
    (reads : r (t ++ tail) = some (a, tail)) (taken : t ≠ [])
    (others : many r tail = some (as, rest)) : many r (t ++ tail) = some (a :: as, rest) := by
  have shorter : tail.length < (t ++ tail).length := by
    have := List.length_pos_of_ne_nil taken
    simp only [List.length_append]
    omega
  simp only [many, Option.some.injEq] at others ⊢
  rw [manyFrom_of_eq_some reads shorter, others]

/-- A text that is written piece by piece is read piece by piece, if each piece can be read
in front of what follows it. -/
theorem many_flatten {r : Reader α} {written : β → List Char → Prop} {R : β → α → Prop}
    {follows : List Char → Prop} {rest : List Char} {bs : List β} {texts : List (List Char)}
    (pieces : List.Forall₂ written bs texts)
    (reads : ∀ b text, written b text → ∀ tail, follows tail →
      text ≠ [] ∧ follows (text ++ tail) ∧ ∃ a, R b a ∧ r (text ++ tail) = some (a, tail))
    (stop : r rest = none) (last : follows rest) :
    follows (texts.flatten ++ rest) ∧
      ∃ as, List.Forall₂ R bs as ∧ many r (texts.flatten ++ rest) = some (as, rest) := by
  induction pieces with
  | nil => exact ⟨last, [], .nil, many_of_eq_none stop⟩
  | @cons b text bs texts isWritten _ ih =>
    obtain ⟨tailFollows, as, shown, readsOthers⟩ := ih
    obtain ⟨taken, nextFollows, a, isShown, readsOne⟩ := reads b text isWritten _ tailFollows
    simp only [List.flatten_cons, List.append_assoc]
    exact ⟨nextFollows, a :: as, .cons isShown shown, many_append readsOne taken readsOthers⟩

theorem separated_of_eq_some {separator : Reader Unit} {item : Reader α} {cs mid rest : List Char}
    {a : α} {as : List α} (first : item cs = some (a, mid))
    (others : many (separator *> item) mid = some (as, rest)) :
    separated separator item cs = some (a :: as, rest) := by
  rw [separated, bind_of_eq_some first, bind_of_eq_some others, pure_apply]

section spacing

theorem blanks_append {s rest : List Char} (all : ∀ c ∈ s, isBlank c)
    (stop : ∀ c ∈ rest.head?, isBlank c = false) : blanks (s ++ rest) = some ((), rest) := by
  rw [blanks, bind_of_eq_some (run_append all stop), pure_apply]

theorem lineEnd_cons (rest : List Char) : lineEnd ('\n' :: rest) = some ((), rest) := by
  simp [lineEnd, orElse_apply, expect_cons, expect_nil]

theorem lineEnd_eq_none {rest : List Char} (h : ∀ c ∈ rest.head?, c ≠ '\n' ∧ c ≠ '\r') :
    lineEnd rest = none := by
  rw [lineEnd, orElse_of_eq_none (expect_eq_none fun c mem => (h c mem).1)]
  exact expect_eq_none fun c mem => (h c mem).2

/-- What no gap takes. -/
def isSolid (c : Char) : Bool := !isBlank c && c ≠ '\n' && c ≠ '\r' && c ≠ '#'

def filler : Reader Unit := (do let _ ← one isBlank) <|> lineEnd <|> comment

theorem filler_eq_none {rest : List Char} (h : ∀ c ∈ rest.head?, isSolid c) :
    filler rest = none := by
  have solid : ∀ c ∈ rest.head?, isBlank c = false ∧ (c ≠ '\n' ∧ c ≠ '\r') ∧ c ≠ '#' := by
    intro c mem
    simpa [isSolid, and_assoc] using h c mem
  rw [filler, orElse_of_eq_none, orElse_of_eq_none (lineEnd_eq_none fun c mem => (solid c mem).2.1),
    comment, bind_of_eq_none (expect_eq_none fun c mem => (solid c mem).2.2)]
  exact bind_of_eq_none (one_eq_none fun c mem => (solid c mem).1)

theorem filler_cons {c : Char} (h : c = ' ' ∨ c = '\n') (rest : List Char) :
    filler (c :: rest) = some ((), rest) := by
  rw [filler]
  rcases h with rfl | rfl
  · rw [orElse_of_eq_some]
    rw [bind_of_eq_some (one_cons (by decide)), pure_apply]
  · rw [orElse_of_eq_none (bind_of_eq_none (one_eq_none (by simp [isBlank])))]
    exact orElse_of_eq_some (lineEnd_cons rest)

theorem gap_append {s rest : List Char} (all : ∀ c ∈ s, c = ' ' ∨ c = '\n')
    (stop : ∀ c ∈ rest.head?, isSolid c) : gap (s ++ rest) = some ((), rest) := by
  have fillers : ∃ units, many filler (s ++ rest) = some (units, rest) := by
    induction s with
    | nil => exact ⟨[], many_of_eq_none (filler_eq_none stop)⟩
    | cons c s ih =>
      obtain ⟨units, others⟩ := ih fun d mem => all d (by simp [mem])
      have first := filler_cons (all c (by simp)) (s ++ rest)
      exact ⟨() :: units, many_append (t := [c]) first (by simp) others⟩
  obtain ⟨units, reads⟩ := fillers
  exact bind_of_eq_some reads

theorem gap_of_solid {rest : List Char} (stop : ∀ c ∈ rest.head?, isSolid c) :
    gap rest = some ((), rest) := gap_append (s := []) (by simp) stop

theorem restOfLine_cons (rest : List Char) : restOfLine ('\n' :: rest) = some ((), rest) := by
  have unblank : blanks ('\n' :: rest) = some ((), '\n' :: rest) :=
    blanks_append (s := []) (by simp) (by simp [isBlank])
  have uncommented : comment ('\n' :: rest) = none :=
    bind_of_eq_none (expect_eq_none (by simp))
  rw [restOfLine, bind_of_eq_some unblank, bind_of_eq_some (maybe_of_eq_none uncommented)]
  exact orElse_of_eq_some (lineEnd_cons rest)

end spacing

end CameraBroker.Toml
