import CameraBroker.Proofs.Readers
import CameraBroker.Toml.Written

/-! A string that is written out is read back as it was, whichever of the four forms it took.
Where a form has lines, quotes at the end of the text run into the closing ones, and the
closing ones give them back. -/
namespace CameraBroker.Toml

section escapes

def hexDigit (d : Nat) : Char := if d < 10 then Char.ofNat (48 + d) else Char.ofNat (55 + d)

theorem isHexDigit_hexDigit : ∀ d < 16, isHexDigit (hexDigit d) := by decide

theorem hexValue_hexDigit : ∀ d < 16, hexValue (hexDigit d) = d := by decide

theorem fourDigits_eq (n : Nat) : fourDigits n = [hexDigit (n / 4096 % 16),
    hexDigit (n / 256 % 16), hexDigit (n / 16 % 16), hexDigit (n % 16)] := rfl

theorem codePoint_fixed (n : Nat) (rest : List Char) :
    codePoint.fixed 4 (fourDigits n ++ rest) = some (fourDigits n, rest) := by
  have digit : ∀ k, isHexDigit (hexDigit (k % 16)) := fun k =>
    isHexDigit_hexDigit (k % 16) (Nat.mod_lt k (by decide))
  simp [fourDigits_eq, codePoint.fixed, bind_apply, map_apply, one_cons, digit]

theorem baseValue_fourDigits {n : Nat} (h : n < 65536) : baseValue 16 (fourDigits n) = n := by
  have digit : ∀ k, hexValue (hexDigit (k % 16)) = k % 16 := fun k =>
    hexValue_hexDigit (k % 16) (Nat.mod_lt k (by decide))
  simp only [fourDigits_eq, baseValue, List.foldl_cons, List.foldl_nil, digit]
  omega

theorem codePoint_fourDigits {c : Char} (h : c.toNat < 65536) (rest : List Char) :
    codePoint 4 (fourDigits c.toNat ++ rest) = some (c, rest) := by
  have char : ∀ n, n = c.toNat → ∀ valid : n.isValidChar, Char.ofNatAux n valid = c := by
    rintro _ rfl valid
    rfl
  have valid : (baseValue 16 (fourDigits c.toNat)).isValidChar := by
    rw [baseValue_fourDigits h]
    exact c.valid
  rw [codePoint, bind_of_eq_some (codePoint_fixed c.toNat rest), dif_pos valid,
    char _ (baseValue_fourDigits h), pure_apply]

theorem escape_letter {x : Char × Char} (h : x ∈ letters) (rest : List Char) :
    escape ('\\' :: x.1 :: rest) = some (x.2, rest) := by
  have found : letters.lookup x.1 = some x.2 := by
    revert x
    decide
  simp [escape, bind_apply, expect_cons, expect_nil, one_cons, found, pure_apply]

theorem escape_code {c : Char} (h : c.toNat < 65536) (rest : List Char) :
    escape ('\\' :: 'u' :: fourDigits c.toNat ++ rest) = some (c, rest) := by
  have other : letters.lookup 'u' = none := by decide
  simp [escape, bind_apply, expect_cons, expect_nil, one_cons, other, codePoint_fourDigits h]

/-- Control characters have small codes. -/
theorem toNat_lt_of_needsEscape {c : Char} (h : needsEscape c) : c.toNat < 65536 := by
  simp only [needsEscape, isVisible, Bool.and_eq_true, Bool.not_eq_eq_eq_not, Bool.not_true,
    Bool.or_eq_false_iff, Bool.and_eq_false_iff, decide_eq_false_iff_not, ne_eq, not_not,
    Char.not_le] at h
  obtain ⟨⟨-, below | rfl⟩, -⟩ := h
  · have : c.toNat < ' '.toNat := below
    have : ' '.toNat = 32 := rfl
    omega
  · decide

end escapes

inductive Spelled (multiline : Bool) (c : Char) : List Char → Prop
  | plain : isPlain c → Spelled multiline c [c]
  | line : multiline → c = '\n' → Spelled multiline c ['\n']
  | escaped {mark : Char} {tail : List Char} : mark ∉ [' ', '\t', '\n', '\r'] →
    (∀ rest, escape ('\\' :: mark :: tail ++ rest) = some (c, rest)) →
    Spelled multiline c ('\\' :: mark :: tail)

theorem escape_eq_none {rest : List Char} (h : ∀ c ∈ rest.head?, c ≠ '\\') :
    escape rest = none := bind_of_eq_none (expect_eq_none h)

theorem spelled_spelled (multiline : Bool) (c : Char) :
    Spelled multiline c (spelled multiline c) := by
  rw [spelled]
  by_cases isLine : c = '\n' ∧ multiline
  case pos =>
    rw [if_pos isLine]
    exact .line isLine.2 isLine.1
  rw [if_neg isLine]
  split
  case h_1 x found =>
    have mem := List.mem_of_find?_eq_some found
    obtain rfl : x.2 = c := by simpa using List.find?_some found
    have mark : ∀ x ∈ letters, x.1 ∉ [' ', '\t', '\n', '\r'] := by decide
    exact .escaped (mark x mem) (escape_letter mem)
  case h_2 none_found =>
    have other : ∀ x ∈ letters, x.2 ≠ c := by simpa using none_found
    split
    case isTrue h => exact .escaped (by decide) (escape_code (toNat_lt_of_needsEscape h))
    case isFalse h =>
      have notLine : c ≠ '\n' := (other ('n', '\n') (by decide)).symm
      have notQuote : c ≠ '"' := (other ('"', '"') (by decide)).symm
      have notBackslash : c ≠ '\\' := (other ('\\', '\\') (by decide)).symm
      exact .plain (by simpa [needsEscape, isPlain, notLine, notQuote, notBackslash] using h)

theorem spelled_quote (multiline : Bool) : Spelled multiline '"' ['\\', '"'] :=
  .escaped (by decide) (escape_letter (x := ('"', '"')) (by decide))

theorem Spelled.ne_nil {multiline : Bool} {c : Char} {text : List Char}
    (h : Spelled multiline c text) : text ≠ [] := by
  cases h <;> simp

theorem Spelled.head?_ne {multiline : Bool} {c : Char} {text : List Char}
    (h : Spelled multiline c text) (notQuote : c ≠ '"') : text.head? ≠ some '"' := by
  cases h with
  | plain => simpa using notQuote
  | line => simp
  | escaped => simp

/-- On a single line each character is read by itself. -/
theorem Spelled.read {c : Char} {text : List Char} (h : Spelled false c text)
    (rest : List Char) : (one isPlain <|> escape) (text ++ rest) = some (c, rest) := by
  cases h with
  | plain plain => exact orElse_of_eq_some (one_cons plain)
  | line lines => contradiction
  | escaped _ reads =>
    rw [orElse_of_eq_none (one_eq_none (by simp [isPlain]))]
    exact reads rest

theorem many_spelledOut (row : Nat) (s rest : List Char) :
    many (one isPlain <|> escape) (spelledOut false 0 row s ++ '"' :: rest) =
      some (s, '"' :: rest) := by
  induction s generalizing row with
  | nil =>
    refine many_of_eq_none ?_
    rw [spelledOut, List.nil_append, orElse_of_eq_none (one_eq_none (by simp [isPlain]))]
    exact escape_eq_none (by simp)
  | cons c s ih =>
    rw [spelledOut]
    split
    case isTrue isQuote =>
      subst isQuote
      have spelling := spelled_quote false
      simpa using many_append (spelling.read _) spelling.ne_nil (ih 0)
    case isFalse =>
      have spelling := spelled_spelled false c
      simpa using many_append (spelling.read _) spelling.ne_nil (ih 0)

theorem basicString_write (s rest : List Char) :
    basicString (Form.basic.write s ++ rest) = some (s, rest) := by
  simp [basicString, Form.write, bind_apply, map_apply, expect_cons, expect_nil, many_spelledOut]

theorem literalString_write {s : List Char} (all : ∀ c ∈ s, isVerbatim c) (rest : List Char) :
    literalString (Form.literal.write s ++ rest) = some (s, rest) := by
  have reads : run isVerbatim (s ++ '\'' :: rest) = some (s, '\'' :: rest) :=
    run_append all (by simp [isVerbatim])
  simp [literalString, Form.write, bind_apply, map_apply, expect_cons, expect_nil, reads]

def linePiece (q : Char) (piece : Reader (List Char)) : Reader (List Char) :=
  (do pure [← loneQuote q]) <|> (do lineEnd; pure ['\n']) <|> piece

theorem lines_eq (q : Char) (piece : Reader (List Char)) :
    lines q piece = expect [q, q, q] >>= fun _ => maybe lineEnd >>= fun _ =>
      many (linePiece q piece) >>= fun pieces => closing q >>= fun last =>
      pure (pieces.flatten ++ last) := rfl

/-- A text that stands for `s` between three quotes and three more. A character takes up a piece
that does not look like a quote, and a quote may stand alone where no two others follow it. -/
inductive Body (q : Char) (piece : Reader (List Char)) : List Char → List Char → Prop
  | nil : Body q piece [] []
  | char {c : Char} {spelling text s : List Char} : spelling ≠ [] →
    (∀ d ∈ spelling.head?, d ≠ q ∧ d ≠ '\r' ∧ (d = '\n' → c = '\n')) →
    (∀ rest, linePiece q piece (spelling ++ rest) = some ([c], rest)) →
    Body q piece text s → Body q piece (spelling ++ text) (c :: s)
  | quote {text s : List Char} : ¬[q, q] <+: text → Body q piece text s →
    Body q piece (q :: text) (q :: s)

theorem loneQuote_eq_none {q : Char} {rest : List Char} (h : ∀ c ∈ rest.head?, c ≠ q) :
    loneQuote q rest = none := by
  rw [loneQuote]
  split
  · rfl
  · exact one_eq_none (by simpa using h)

theorem loneQuote_cons {q : Char} {rest : List Char} (h : ¬[q, q] <+: rest) :
    loneQuote q (q :: rest) = some (q, rest) := by
  have notThree : [q, q, q].isPrefixOf (q :: rest) = false := by
    simpa [← List.isPrefixOf_iff_prefix] using h
  simp [loneQuote, notThree, one_cons]

theorem loneQuote_three (q : Char) (rest : List Char) :
    loneQuote q (q :: q :: q :: rest) = none := by
  simp [loneQuote]

theorem linePiece_of_eq_none {q : Char} {piece : Reader (List Char)} {cs : List Char}
    (h : loneQuote q cs = none) (line : ∀ c ∈ cs.head?, c ≠ '\n' ∧ c ≠ '\r') :
    linePiece q piece cs = piece cs := by
  rw [linePiece, orElse_of_eq_none (bind_of_eq_none h),
    orElse_of_eq_none (bind_of_eq_none (lineEnd_eq_none line))]

section lines
variable {q : Char} {piece : Reader (List Char)} {text s rest : List Char}

/-- Quotes at the end of the text are left for the closing ones. -/
theorem Body.read (h : Body q piece text s) (line : q ≠ '\n' ∧ q ≠ '\r')
    (stop : ∀ rest, piece (q :: rest) = none) (rest : List Char) :
    ∃ pieces tail, many (linePiece q piece) (text ++ ([q, q, q] ++ rest)) =
        some (pieces, tail ++ ([q, q, q] ++ rest)) ∧
      pieces.flatten ++ tail = s ∧ tail ∈ [[], [q], [q, q]] := by
  have three : ∀ tail, linePiece q piece (q :: q :: q :: tail) = none := fun tail => by
    rw [linePiece_of_eq_none (loneQuote_three q tail) (by simpa using line), stop]
  have refused : ∀ tail ∈ [[], [q], [q, q]],
      linePiece q piece (tail ++ ([q, q, q] ++ rest)) = none := by
    intro tail short
    rcases (by simpa using short : tail = [] ∨ tail = [q] ∨ tail = [q, q]) with
      rfl | rfl | rfl <;> exact three _
  -- what is left over are the quotes right before the closing ones, as long as they are few
  induction h with
  | nil => exact ⟨[], [], many_of_eq_none (refused [] (by simp)), by simp⟩
  | @char c spelling text s taken _ reads _ ih =>
    obtain ⟨pieces, tail, others, joined, short⟩ := ih
    refine ⟨[c] :: pieces, tail, ?_, by simp [joined], short⟩
    rw [List.append_assoc]
    exact many_append (reads _) taken others
  | @quote text s notTwo _ ih =>
    obtain ⟨pieces, tail, others, joined, short⟩ := ih
    by_cases last : text ∈ [[], [q]]
    case pos =>
      -- nothing behind this quote is read, so the quote stays behind as well
      have short : text ∈ [[], [q], [q, q]] := by
        rcases (by simpa using last : text = [] ∨ text = [q]) with rfl | rfl <;> simp
      rw [many_of_eq_none (refused text short)] at others
      obtain ⟨rfl, same⟩ :
          [] = pieces ∧ text ++ ([q, q, q] ++ rest) = tail ++ ([q, q, q] ++ rest) := by
        simpa using others
      obtain rfl := List.append_cancel_right same
      have short' : q :: text ∈ [[], [q], [q, q]] := by simpa using last
      exact ⟨[], q :: text, many_of_eq_none (refused _ short'), by simpa using joined, short'⟩
    case neg =>
      have lone : ¬[q, q] <+: text ++ ([q, q, q] ++ rest) := by
        match text with
        | [] => simp at last
        | [c] =>
          have : c ≠ q := by simpa using last
          simp [this.symm]
        | c :: d :: text => simpa using notTwo
      have reads : linePiece q piece ([q] ++ (text ++ ([q, q, q] ++ rest))) =
          some ([q], text ++ ([q, q, q] ++ rest)) :=
        orElse_of_eq_some (bind_of_eq_some (loneQuote_cons lone))
      exact ⟨[q] :: pieces, tail, many_append (t := [q]) reads (by simp) others,
        by simp [joined], short⟩

theorem Body.head (h : Body q piece text s) (line : q ≠ '\n' ∧ q ≠ '\r') :
    ∀ d ∈ text.head?, d ≠ '\r' ∧ (d = '\n' → '\n' ∈ s) := by
  cases h with
  | nil => simp
  | @char c spelling text s taken head =>
    intro d mem
    obtain ⟨-, notReturn, isLine⟩ := head d (by
      cases spelling with
      | nil => contradiction
      | cons => simpa using mem)
    exact ⟨notReturn, fun isLineEnd => by simp [isLine isLineEnd]⟩
  | quote => simp [line.1, line.2]

theorem closing_append {tail : List Char} (h : tail ∈ [[], [q], [q, q]])
    (last : rest.head? ≠ some q) :
    closing q (tail ++ ([q, q, q] ++ rest)) = some (tail, rest) := by
  have stop : ∀ c ∈ rest.head?, c ≠ q := by
    rintro c mem rfl
    exact last mem
  rcases (by simpa using h : tail = [] ∨ tail = [q] ∨ tail = [q, q]) with rfl | rfl | rfl
  · exact closing_three q rest last
  · simp [closing, orElse_apply, map_apply, expect_cons, expect_nil, expect_eq_none stop]
  · simp [closing, orElse_apply, map_apply, expect_cons, expect_nil]

theorem Body.lines (h : Body q piece text s) (line : q ≠ '\n' ∧ q ≠ '\r')
    (stop : ∀ rest, piece (q :: rest) = none) (last : rest.head? ≠ some q) :
    lines q piece ([q, q, q] ++ opening s ++ text ++ [q, q, q] ++ rest) = some (s, rest) := by
  obtain ⟨pieces, tail, reads, joined, short⟩ := h.read line stop rest
  have opened : ∃ x, maybe lineEnd (opening s ++ (text ++ ([q, q, q] ++ rest))) =
      some (x, text ++ ([q, q, q] ++ rest)) := by
    by_cases hasLine : '\n' ∈ s
    case pos =>
      have isLine : opening s = ['\n'] := by simp [opening, hasLine]
      rw [isLine]
      exact ⟨some (), maybe_of_eq_some (lineEnd_cons _)⟩
    case neg =>
      have isEmpty : opening s = [] := by simp [opening, hasLine]
      rw [isEmpty]
      refine ⟨none, maybe_of_eq_none (lineEnd_eq_none fun d mem => ?_)⟩
      cases text with
      | nil => simp_all
      | cons c text =>
        obtain ⟨notReturn, isLine⟩ := h.head line d (by simpa using mem)
        exact ⟨fun e => hasLine (isLine e), notReturn⟩
  obtain ⟨x, opened⟩ := opened
  have opens := expect_append [q, q, q] (opening s ++ (text ++ ([q, q, q] ++ rest)))
  simp only [List.append_assoc]
  rw [lines_eq, bind_of_eq_some opens, bind_of_eq_some opened, bind_of_eq_some reads,
    bind_of_eq_some (closing_append short last), pure_apply, joined]

end lines

theorem head?_spelledOut {multiline : Bool} {room row : Nat} (s : List Char) (h : room ≤ row) :
    (spelledOut multiline room row s).head? ≠ some '"' := by
  cases s with
  | nil => simp [spelledOut]
  | cons c s =>
    rw [spelledOut]
    split
    case isTrue => simp [show ¬row < room by omega]
    case isFalse notQuote =>
      have spelling := spelled_spelled multiline c
      rw [List.head?_append_of_ne_nil _ spelling.ne_nil]
      exact spelling.head?_ne notQuote

/-- At most two quotes stand in a row. -/
theorem spelledOut_quotes (row : Nat) (s : List Char) :
    ¬['"', '"'] <+: spelledOut true 2 (row + 1) s := by
  rintro ⟨t, same⟩
  cases s with
  | nil => simp [spelledOut] at same
  | cons c s =>
    rw [spelledOut] at same
    split at same
    case isTrue =>
      split at same
      case isTrue =>
        have head : (spelledOut true 2 (row + 2) s).head? ≠ some '"' :=
          head?_spelledOut s (by omega)
        have next : '"' :: t = spelledOut true 2 (row + 2) s := by simpa using same
        simp [← next] at head
      case isFalse => simp at same
    case isFalse notQuote =>
      have spelling := spelled_spelled true c
      have head := congrArg List.head? same
      rw [List.head?_append_of_ne_nil _ spelling.ne_nil] at head
      exact spelling.head?_ne notQuote head.symm

def basicPiece : Reader (List Char) :=
  (do pure [← one isPlain]) <|> (do continuation; pure []) <|> (do pure [← escape])

def literalPiece : Reader (List Char) := do pure [← one isVerbatim]

theorem continuation_eq_none {rest : List Char} {mark : Char}
    (h : mark ∉ [' ', '\t', '\n', '\r']) : continuation ('\\' :: mark :: rest) = none := by
  obtain ⟨space, tab, line, back⟩ :
    mark ≠ ' ' ∧ mark ≠ '\t' ∧ mark ≠ '\n' ∧ mark ≠ '\r' := by simpa using h
  have unblank : blanks (mark :: rest) = some ((), mark :: rest) :=
    blanks_append (s := []) (by simp) (by simp [isBlank, space, tab])
  rw [continuation, bind_of_eq_some (expect_singleton _ _), bind_of_eq_some unblank]
  exact bind_of_eq_none (lineEnd_eq_none (by simp [line, back]))

theorem Spelled.readLines {c : Char} {text : List Char} (h : Spelled true c text)
    (head : text.head? ≠ some '"') (rest : List Char) :
    linePiece '"' basicPiece (text ++ rest) = some ([c], rest) := by
  have lone : loneQuote '"' (text ++ rest) = none := loneQuote_eq_none (by
    rw [List.head?_append_of_ne_nil _ h.ne_nil]
    rintro c mem rfl
    exact head mem)
  cases h with
  | plain plain =>
    have visible : c ≠ '\n' ∧ c ≠ '\r' := by
      constructor <;> rintro rfl <;> simp [isPlain, isVisible] at plain
    rw [linePiece_of_eq_none lone (by simpa using visible)]
    exact orElse_of_eq_some (bind_of_eq_some (one_cons plain))
  | line _ isLine =>
    subst isLine
    rw [linePiece, orElse_of_eq_none (bind_of_eq_none lone)]
    exact orElse_of_eq_some (bind_of_eq_some (lineEnd_cons rest))
  | @escaped mark tail notSpace reads =>
    have notPlain : one isPlain ('\\' :: mark :: tail ++ rest) = none :=
      one_eq_none (by simp [isPlain])
    have notContinued : continuation ('\\' :: mark :: tail ++ rest) = none :=
      continuation_eq_none notSpace
    rw [linePiece_of_eq_none lone (by simp), basicPiece,
      orElse_of_eq_none (bind_of_eq_none notPlain),
      orElse_of_eq_none (bind_of_eq_none notContinued)]
    exact bind_of_eq_some (reads rest)

theorem Spelled.head_line {c : Char} {text : List Char} (h : Spelled true c text)
    (head : text.head? ≠ some '"') :
    ∀ d ∈ text.head?, d ≠ '"' ∧ d ≠ '\r' ∧ (d = '\n' → c = '\n') := by
  cases h with
  | plain plain =>
    have visible : c ≠ '\r' := by
      rintro rfl
      simp [isPlain, isVisible] at plain
    simpa [visible] using head
  | line _ isLine => simp [isLine]
  | escaped => simp

theorem body_spelledOut (row : Nat) (s : List Char) :
    Body '"' basicPiece (spelledOut true 2 row s) s := by
  have char : ∀ {c text s}, Spelled true c text → text.head? ≠ some '"' →
      Body '"' basicPiece (spelledOut true 2 0 s) s →
      Body '"' basicPiece (text ++ spelledOut true 2 0 s) (c :: s) :=
    fun spelling head others =>
      .char spelling.ne_nil (spelling.head_line head) (spelling.readLines head) others
  induction s generalizing row with
  | nil => exact .nil
  | cons c s ih =>
    rw [spelledOut]
    split
    case isTrue isQuote =>
      subst isQuote
      split
      case isTrue => exact .quote (spelledOut_quotes row s) (ih _)
      case isFalse => exact char (spelled_quote true) (by simp) (ih 0)
    case isFalse notQuote =>
      have spelling := spelled_spelled true c
      exact char spelling (spelling.head?_ne notQuote) (ih 0)

theorem basicPiece_quote (rest : List Char) : basicPiece ('"' :: rest) = none := by
  have notContinued : continuation ('"' :: rest) = none :=
    bind_of_eq_none (expect_eq_none (by simp))
  rw [basicPiece, orElse_of_eq_none (bind_of_eq_none (one_eq_none (by simp [isPlain]))),
    orElse_of_eq_none (bind_of_eq_none notContinued)]
  exact bind_of_eq_none (escape_eq_none (by simp))

theorem basicLines_write (s : List Char) {rest : List Char} (last : rest.head? ≠ some '"') :
    basicLines (Form.basicLines.write s ++ rest) = some (s, rest) :=
  (body_spelledOut 0 s).lines (by decide) basicPiece_quote last

section rows

theorem le_longestRow (q : Char) (row : Nat) (s : List Char) : row ≤ longestRow q row s := by
  induction s generalizing row with
  | nil => exact Nat.le_refl row
  | cons c s ih =>
    rw [longestRow]
    split
    · exact Nat.le_of_succ_le (ih (row + 1))
    · exact Nat.le_max_left ..

theorem not_mem_of_longestRow {q : Char} {s : List Char} (h : longestRow q 0 s = 0) : q ∉ s := by
  induction s with
  | nil => simp
  | cons c s ih =>
    rw [longestRow] at h
    split at h
    case isTrue =>
      have : 0 + 1 ≤ longestRow q (0 + 1) s := le_longestRow q (0 + 1) s
      omega
    case isFalse other =>
      have rowless : longestRow q 0 s = 0 := by omega
      simpa using ⟨fun e => other e.symm, ih rowless⟩

theorem literalPiece_line {c : Char} (notQuote : c ≠ '\'') (shown : needsEscape c = false)
    (rest : List Char) : linePiece '\'' literalPiece (c :: rest) = some ([c], rest) := by
  have lone : loneQuote '\'' (c :: rest) = none := loneQuote_eq_none (by simpa using notQuote)
  by_cases isLine : c = '\n'
  case pos =>
    subst isLine
    rw [linePiece, orElse_of_eq_none (bind_of_eq_none lone)]
    exact orElse_of_eq_some (bind_of_eq_some (lineEnd_cons rest))
  case neg =>
    have visible : isVisible c := by simpa [needsEscape, isLine] using shown
    have notReturn : c ≠ '\r' := by
      rintro rfl
      simp [isVisible] at visible
    rw [linePiece_of_eq_none lone (by simp [isLine, notReturn])]
    exact bind_of_eq_some (one_cons (by simp [isVerbatim, visible, notQuote]))

theorem body_literal {row : Nat} {s : List Char} (shown : ∀ c ∈ s, needsEscape c = false)
    (rows : longestRow '\'' row s ≤ 2) : Body '\'' literalPiece s s := by
  induction s generalizing row with
  | nil => exact .nil
  | cons c s ih =>
    have others : ∀ d ∈ s, needsEscape d = false := fun d mem => shown d (by simp [mem])
    rw [longestRow] at rows
    split at rows
    case isTrue isQuote =>
      subst isQuote
      refine .quote ?_ (ih others rows)
      rintro ⟨t, rfl⟩
      have long : row + 1 + 1 + 1 ≤ longestRow '\'' (row + 1 + 1 + 1) t := le_longestRow ..
      simp only [List.cons_append, List.nil_append, longestRow, if_true] at rows
      omega
    case isFalse notQuote =>
      have notReturn : c ≠ '\r' := by
        rintro rfl
        exact absurd (shown '\r' (by simp)) (by decide)
      have body := ih others (Nat.le_trans (Nat.le_max_right ..) rows)
      have reads := literalPiece_line notQuote (shown c (by simp))
      have head : ∀ d ∈ [c].head?, d ≠ '\'' ∧ d ≠ '\r' ∧ (d = '\n' → c = '\n') := by
        simp [notQuote, notReturn]
      exact .char (List.cons_ne_nil c []) head reads body

theorem literalLines_write {s rest : List Char} (shown : ∀ c ∈ s, needsEscape c = false)
    (rows : longestRow '\'' 0 s ≤ 2) (last : rest.head? ≠ some '\'') :
    literalLines (Form.literalLines.write s ++ rest) = some (s, rest) :=
  (body_literal shown rows).lines (by decide)
    (fun _ => bind_of_eq_none (one_eq_none (by simp [isVerbatim]))) last

end rows

theorem lines_eq_none {q : Char} {piece : Reader (List Char)} {cs : List Char}
    (h : ¬[q, q, q] <+: cs) : lines q piece cs = none := by
  rw [lines_eq]
  refine bind_of_eq_none ?_
  simpa [expect] using h

section forms
variable {s rest : List Char}

theorem quoted_basic (s : List Char) (last : ∀ c ∈ rest.head?, c ≠ '"' ∧ c ≠ '\'') :
    quoted (Form.basic.write s ++ rest) = some (s, rest) := by
  have notThree : ¬['"', '"', '"'] <+: Form.basic.write s ++ rest := by
    have head : (spelledOut false 0 0 s).head? ≠ some '"' := head?_spelledOut s (Nat.le_refl 0)
    simp only [Form.write, List.cons_append, List.append_assoc, List.nil_append,
      List.cons_prefix_cons, true_and]
    cases text : spelledOut false 0 0 s with
    | nil =>
      cases rest with
      | nil => simp
      | cons c rest => simpa using fun e => (last c (by simp)).1 e.symm
    | cons c text =>
      have : c ≠ '"' := by simpa [text] using head
      simp [this.symm]
  rw [quoted, orElse_of_eq_none (r := basicLines) (lines_eq_none notThree),
    orElse_of_eq_none (r := literalLines) (lines_eq_none (by simp [Form.write]))]
  exact orElse_of_eq_some (basicString_write s rest)

theorem quoted_literal (shown : ∀ c ∈ s, isVerbatim c)
    (last : ∀ c ∈ rest.head?, c ≠ '"' ∧ c ≠ '\'') :
    quoted (Form.literal.write s ++ rest) = some (s, rest) := by
  have notThree : ¬['\'', '\'', '\''] <+: Form.literal.write s ++ rest := by
    simp only [Form.write, List.cons_append, List.append_assoc, List.nil_append,
      List.cons_prefix_cons, true_and]
    cases s with
    | nil =>
      cases rest with
      | nil => simp
      | cons c rest => simpa using fun e => (last c (by simp)).2 e.symm
    | cons c s =>
      have : c ≠ '\'' := by
        rintro rfl
        simpa [isVerbatim] using shown '\'' (by simp)
      simp [this.symm]
  have notBasic : basicString (Form.literal.write s ++ rest) = none :=
    bind_of_eq_none (expect_eq_none (by simp [Form.write]))
  rw [quoted, orElse_of_eq_none (r := basicLines) (lines_eq_none (by simp [Form.write])),
    orElse_of_eq_none (r := literalLines) (lines_eq_none notThree), orElse_of_eq_none notBasic]
  exact literalString_write shown rest

theorem quoted_basicLines (s : List Char) (last : ∀ c ∈ rest.head?, c ≠ '"' ∧ c ≠ '\'') :
    quoted (Form.basicLines.write s ++ rest) = some (s, rest) :=
  orElse_of_eq_some (basicLines_write s fun mem => (last '"' mem).1 rfl)

theorem quoted_literalLines (shown : ∀ c ∈ s, needsEscape c = false)
    (rows : longestRow '\'' 0 s ≤ 2) (last : ∀ c ∈ rest.head?, c ≠ '"' ∧ c ≠ '\'') :
    quoted (Form.literalLines.write s ++ rest) = some (s, rest) := by
  rw [quoted, orElse_of_eq_none (r := basicLines) (lines_eq_none (by simp [Form.write]))]
  exact orElse_of_eq_some (literalLines_write shown rows fun mem => (last '\'' mem).2 rfl)

/-- Whichever form is chosen for a string, the string is read back from it. -/
theorem quoted_of (s : List Char) (last : ∀ c ∈ rest.head?, c ≠ '"' ∧ c ≠ '\'') :
    quoted ((Form.of s).write s ++ rest) = some (s, rest) := by
  simp only [Form.of]
  split
  case isTrue => exact quoted_basic s last
  split
  case isTrue h =>
    simp only [Bool.and_eq_true, Bool.not_eq_eq_eq_not, Bool.not_true, List.any_eq_false,
      decide_eq_true_eq, List.contains_eq_mem, decide_eq_false_iff_not] at h
    obtain ⟨⟨codes, rowless⟩, newline⟩ := h
    refine quoted_literal (fun c mem => ?_) last
    have noQuote := not_mem_of_longestRow rowless
    have shown := codes c mem
    have notLine : c ≠ '\n' := fun e => newline (e ▸ mem)
    have notQuote : c ≠ '\'' := fun e => noQuote (e ▸ mem)
    simpa [needsEscape, isVerbatim, notLine, notQuote] using shown
  split
  case isTrue => exact quoted_basicLines s last
  split
  case isTrue h =>
    simp only [Bool.and_eq_true, Bool.not_eq_eq_eq_not, Bool.not_true, List.any_eq_false,
      decide_eq_true_eq] at h
    exact quoted_literalLines (fun c mem => by simpa using h.1 c mem) h.2 last
  split
  case isTrue => exact quoted_basicLines s last
  case isFalse => exact quoted_basic s last

end forms

theorem quoted_writeString (s : String) {rest : List Char}
    (last : ∀ c ∈ rest.head?, c ≠ '"' ∧ c ≠ '\'') :
    quoted (writeString s ++ rest) = some (s.toList, rest) := quoted_of s.toList last

theorem quoted_eq_none {cs : List Char} (h : ∀ c ∈ cs.head?, c ≠ '"' ∧ c ≠ '\'') :
    quoted cs = none := by
  have notDouble : ∀ c ∈ cs.head?, c ≠ '"' := fun c mem => (h c mem).1
  have notSingle : ∀ c ∈ cs.head?, c ≠ '\'' := fun c mem => (h c mem).2
  rw [quoted, orElse_of_eq_none (r := basicLines) (bind_of_eq_none (expect_eq_none notDouble)),
    orElse_of_eq_none (r := literalLines) (bind_of_eq_none (expect_eq_none notSingle)),
    orElse_of_eq_none (r := basicString) (bind_of_eq_none (expect_eq_none notDouble))]
  exact bind_of_eq_none (expect_eq_none notSingle)

theorem writeString_head (s : String) :
    ∃ q text, writeString s = q :: text ∧ (q = '"' ∨ q = '\'') := by
  rw [writeString]
  cases Form.of s.toList <;> simp [Form.write]

end CameraBroker.Toml
