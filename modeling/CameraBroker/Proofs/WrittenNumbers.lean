import CameraBroker.Proofs.Readers
import CameraBroker.Toml.Moment
import CameraBroker.Toml.Number
import Mathlib.Data.Nat.Digits.Defs

/-! A whole number that is written out in base ten is read back as that number: no date, no
time of day and no other kind of number begins with its digits, if it stands in front of a
line end, a comma or a bracket. -/
namespace CameraBroker.Toml
open Decimal

def Ends (rest : List Char) : Prop := ∃ c tail, rest = c :: tail ∧ c ∈ ['\n', ',', ']']

theorem Ends.head {rest : List Char} (h : Ends rest) {p : Char → Prop}
    (each : p '\n' ∧ p ',' ∧ p ']') : ∀ c ∈ rest.head?, p c := by
  obtain ⟨c, tail, rfl, mem⟩ := h
  rcases (by simpa using mem : c = '\n' ∨ c = ',' ∨ c = ']') with rfl | rfl | rfl
  · simpa using each.1
  · simpa using each.2.1
  · simpa using each.2.2

/-- Digits, maybe none, and behind them the end of a value. -/
def Counts (cs : List Char) : Prop := Ends (cs.dropWhile Char.isDigit)

theorem Counts.of_append {s rest : List Char} (all : ∀ c ∈ s, c.isDigit) (h : Ends rest) :
    Counts (s ++ rest) := by
  have stop : ∀ c ∈ rest.head?, c.isDigit = false := h.head (by decide)
  have same : rest.dropWhile Char.isDigit = rest := by
    cases rest with
    | nil => rfl
    | cons c rest => simp [stop c (by simp)]
  rwa [Counts, List.dropWhile_append_of_pos all, same]

theorem Counts.tail {c : Char} {cs : List Char} (h : Counts (c :: cs)) (digit : c.isDigit) :
    Counts cs := by
  simpa [Counts, digit] using h

section moments
variable {cs rest : List Char}

theorem Counts.head_ne {d : Char} (h : Counts cs)
    (other : d.isDigit = false ∧ d ∉ ['\n', ',', ']']) : ∀ c ∈ cs.head?, c ≠ d := by
  rintro c mem rfl
  cases cs with
  | nil => simp at mem
  | cons e cs =>
    obtain rfl : e = c := by simpa using mem
    obtain ⟨f, tail, same, ends⟩ := h
    obtain ⟨rfl, -⟩ : e = f ∧ cs = tail := by simpa [other.1] using same
    exact other.2 ends

theorem Counts.expect_eq_none {c : Char} {s : List Char} (h : Counts cs)
    (other : c.isDigit = false ∧ c ∉ ['\n', ',', ']']) : expect (c :: s) cs = none :=
  Toml.expect_eq_none (h.head_ne other)

theorem Counts.of_fixedDigits {width : Nat} {ds : List Char} (h : Counts cs)
    (reads : fixedDigits width cs = some (ds, rest)) : Counts rest := by
  induction width generalizing cs ds with
  | zero =>
    obtain ⟨rfl, rfl⟩ : [] = ds ∧ cs = rest := by simpa [fixedDigits, pure_apply] using reads
    exact h
  | succ width ih =>
    cases cs with
    | nil => simp [fixedDigits, bind_apply, one] at reads
    | cons c cs =>
      by_cases digit : c.isDigit
      case pos =>
        rw [fixedDigits, bind_of_eq_some (one_cons digit), bind_apply] at reads
        obtain ⟨x, others, same⟩ := Option.bind_eq_some_iff.mp reads
        obtain ⟨-, rfl⟩ : _ ∧ x.2 = rest := by simpa [pure_apply] using same
        exact ih (h.tail digit) others
      case neg => simp [fixedDigits, bind_apply, one, digit] at reads

theorem Counts.of_between {width low high n : Nat} (h : Counts cs)
    (reads : between width low high cs = some (n, rest)) : Counts rest := by
  rw [between, bind_apply] at reads
  obtain ⟨x, digits, bounded⟩ := Option.bind_eq_some_iff.mp reads
  split at bounded
  · obtain ⟨-, rfl⟩ : _ ∧ x.2 = rest := by simpa [pure_apply] using bounded
    exact h.of_fixedDigits digits
  · simp [failure_apply] at bounded

/-- A number is no date and no time of day. -/
theorem Counts.moment_eq_none (h : Counts cs) : moment cs = none := by
  have noDate : date cs = none := bind_eq_none fun _ _ reads =>
    bind_of_eq_none ((h.of_between reads).expect_eq_none (by decide))
  have noTime : timeOfDay cs = none := bind_eq_none fun _ _ reads =>
    bind_of_eq_none ((h.of_between reads).expect_eq_none (by decide))
  rw [moment, orElse_of_eq_none (bind_of_eq_none noDate), noTime]

theorem Counts.marked_eq_none {mark : Char} {base : Nat} (h : Counts cs)
    (other : mark.isDigit = false ∧ mark ∉ ['\n', ',', ']']) : marked mark base cs = none := by
  refine bind_of_eq_none ?_
  match cs with
  | [] => rfl
  | c :: cs =>
    by_cases zero : c = '0'
    case pos =>
      subst zero
      rw [expect_cons]
      exact (h.tail (by decide)).expect_eq_none other
    case neg => exact Toml.expect_eq_none (by simpa using zero)

end moments

section digits
variable {rest : List Char}

theorem digits_append {p : Char → Bool} {c : Char} {ds : List Char} (first : p c)
    (all : ∀ c ∈ ds, p c) (plain : p '_' = false)
    (stop : ∀ c ∈ rest.head?, p c = false ∧ c ≠ '_') :
    digits p (c :: ds ++ rest) = some (c :: ds, rest) := by
  have others : many (maybe (expect ['_']) *> one p) (ds ++ rest) = some (ds, rest) := by
    induction ds with
    | nil =>
      refine many_of_eq_none ?_
      rw [List.nil_append, seqRight_apply,
        maybe_of_eq_none (expect_eq_none fun c mem => (stop c mem).2)]
      exact one_eq_none fun c mem => (stop c mem).1
    | cons d ds ih =>
      have digit : p d := all d (by simp)
      have other : d ≠ '_' := by
        rintro rfl
        simp [plain] at digit
      refine many_append (t := [d]) ?_ (by simp) (ih fun c mem => all c (by simp [mem]))
      rw [seqRight_apply, maybe_of_eq_none (expect_eq_none (by simpa using other))]
      exact one_cons digit
  rw [digits, List.cons_append, bind_of_eq_some (one_cons first), bind_of_eq_some others,
    pure_apply]

theorem digitChar_ne_zero : ∀ n < 10, n ≠ 0 → n.digitChar ≠ '0' := by decide

/-- Only zero starts with a zero. -/
theorem toDigits_head {n : Nat} (h : n ≠ 0) : (Nat.toDigits 10 n).head? ≠ some '0' := by
  induction n using Nat.strongRecOn with
  | ind n ih =>
    rw [Nat.toDigits_eq_if (by decide)]
    split
    case isTrue small =>
      simpa using digitChar_ne_zero n small h
    case isFalse large =>
      rw [List.head?_append_of_ne_nil _ Nat.toDigits_ne_nil]
      exact ih (n / 10) (by omega) (by omega)

theorem wholeDigits_toDigits (n : Nat) (h : Ends rest) :
    wholeDigits (Nat.toDigits 10 n ++ rest) = some (Nat.toDigits 10 n, rest) := by
  by_cases zero : n = 0
  case pos =>
    subst zero
    rfl
  case neg =>
    have all : ∀ c ∈ Nat.toDigits 10 n, c.isDigit :=
      fun c => Nat.isDigit_of_mem_toDigits (by decide) (by decide)
    have head := toDigits_head zero
    have stop : ∀ c ∈ rest.head?, c.isDigit = false ∧ c ≠ '_' := h.head (by decide)
    cases digits : Nat.toDigits 10 n with
    | nil => exact absurd digits Nat.toDigits_ne_nil
    | cons c ds =>
      rw [digits] at all head
      have notZero : c ≠ '0' := by simpa using head
      rw [wholeDigits, bind_of_eq_some (maybe_of_eq_none (expect_eq_none (by simpa using notZero)))]
      exact digits_append (all c (by simp)) (fun d mem => all d (by simp [mem])) (by decide) stop

theorem digitsValue_toDigits (n : Nat) : digitsValue (Nat.toDigits 10 n) = n :=
  Nat.ofDigitChars_toDigits (by decide) (by decide)

theorem takeSign_of_isDigit {c : Char} (digit : c.isDigit) (cs : List Char) :
    takeSign (c :: cs) = (false, c :: cs) := by
  unfold takeSign
  split
  · exact absurd digit (by simp_all)
  · exact absurd digit (by simp_all)
  · rfl

end digits

theorem toList_toString (n : Nat) : (toString n).toList = Nat.toDigits 10 n := Nat.toList_repr

theorem isDigit_toString (n : Nat) : ∀ c ∈ (toString n).toList, c.isDigit := fun c mem =>
  Nat.isDigit_of_mem_toDigits (by decide) (by decide) (toList_toString n ▸ mem)

/-- A number of at most 63 bits is read back. -/
theorem number_toString {n : Nat} (small : n < wordLimit 63) {rest : List Char} (h : Ends rest) :
    number ((toString n).toList ++ rest) = some (.integer n, rest) := by
  have counts : Counts ((toString n).toList ++ rest) := .of_append (isDigit_toString n) h
  have unsigned : sign ((toString n).toList ++ rest) =
      some (false, (toString n).toList ++ rest) := by
    have all := isDigit_toString n
    have digits : (toString n).toList ≠ [] := by
      rw [toList_toString]
      exact Nat.toDigits_ne_nil
    obtain ⟨c, ds, digits⟩ := List.exists_cons_of_ne_nil digits
    rw [digits] at all ⊢
    rw [sign, List.cons_append, takeSign_of_isDigit (all c (by simp))]
  have whole : wholeDigits ((toString n).toList ++ rest) = some (Nat.toDigits 10 n, rest) := by
    rw [toList_toString]
    exact wholeDigits_toDigits n h
  have fractionless : fraction rest = none := bind_of_eq_none (expect_eq_none (h.head (by decide)))
  have powerless : power rest = none := bind_of_eq_none (one_eq_none (h.head (by decide)))
  have fits : integer? n = some (.integer n) := by
    rw [integer?, if_pos (by omega)]
  have reads : decimal ((toString n).toList ++ rest) = some (.integer n, rest) := by
    rw [decimal, bind_of_eq_some unsigned, bind_of_eq_some whole,
      bind_of_eq_some (maybe_of_eq_none fractionless),
      bind_of_eq_some (maybe_of_eq_none powerless)]
    simp [digitsValue_toDigits, fits, liftM_apply]
  rw [number, orElse_of_eq_none (counts.marked_eq_none (by decide)),
    orElse_of_eq_none (counts.marked_eq_none (by decide)),
    orElse_of_eq_none (counts.marked_eq_none (by decide))]
  exact orElse_of_eq_some reads

end CameraBroker.Toml
