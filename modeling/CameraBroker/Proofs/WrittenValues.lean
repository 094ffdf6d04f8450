import CameraBroker.Proofs.QuotedText
import CameraBroker.Proofs.WrittenNumbers
import CameraBroker.Toml.Grammar

/-! A value that is written out is read back as a node that shows it: strings and numbers as
they are, and lists of strings on one line or on a line for each string. -/
namespace CameraBroker.Toml

def ShowsString (s : String) (n : Node) : Prop := ∃ span, n = .scalar span (.string s)

inductive Shows : Entry → Node → Prop
  | string {s : String} {n : Node} : ShowsString s n → Shows (.string s) n
  | number {n : Nat} {span : Span} : Shows (.number n) (.scalar span (.number (.integer n)))
  | strings {items : List String} {nodes : List Node} {span : Span} :
    List.Forall₂ ShowsString items nodes → Shows (.strings items) (.array span nodes)

section scalars
variable {rest : List Char}

theorem scalar_writeString (s : String) (h : Ends rest) :
    scalar (writeString s ++ rest) = some (.string s, rest) := by
  refine orElse_of_eq_some ?_
  rw [bind_of_eq_some (quoted_writeString s (h.head (by decide))), pure_apply,
    String.ofList_toList]

theorem scalar_toString {n : Nat} (small : n < Decimal.wordLimit 63) (h : Ends rest) :
    scalar ((toString n).toList ++ rest) = some (.number (.integer n), rest) := by
  have counts : Counts ((toString n).toList ++ rest) := .of_append (isDigit_toString n) h
  have unquoted : quoted ((toString n).toList ++ rest) = none := quoted_eq_none fun c mem =>
    ⟨counts.head_ne (by decide) c mem, counts.head_ne (by decide) c mem⟩
  rw [scalar, orElse_of_eq_none (bind_of_eq_none unquoted),
    orElse_of_eq_none (bind_of_eq_none counts.moment_eq_none)]
  exact orElse_of_eq_some (bind_of_eq_some (number_toString small h))

/-- A bracket that closes is no value. -/
theorem scalar_bracket (rest : List Char) : scalar (']' :: rest) = none := by
  have counts : Counts (']' :: rest) := .of_append (s := []) (by simp) ⟨_, _, rfl, by simp⟩
  have unsigned : sign (']' :: rest) = some (false, ']' :: rest) := rfl
  have noDigits : wholeDigits (']' :: rest) = none := by
    rw [wholeDigits, bind_of_eq_some (maybe_of_eq_none (expect_eq_none (by simp)))]
    exact bind_of_eq_none (one_eq_none (by simp))
  have noDecimal : decimal (']' :: rest) = none := by
    rw [decimal, bind_of_eq_some unsigned]
    exact bind_of_eq_none noDigits
  have noName : special (']' :: rest) = none := by
    rw [special, bind_of_eq_some unsigned]
    simp [orElse_apply, map_apply, expect]
  have noNumber : number (']' :: rest) = none := by
    rw [number, orElse_of_eq_none (counts.marked_eq_none (by decide)),
      orElse_of_eq_none (counts.marked_eq_none (by decide)),
      orElse_of_eq_none (counts.marked_eq_none (by decide)), orElse_of_eq_none noDecimal, noName]
  have noBoolean : boolean (']' :: rest) = none := by
    simp [boolean, orElse_apply, map_apply, expect]
  rw [scalar, orElse_of_eq_none (bind_of_eq_none (quoted_eq_none (by simp))),
    orElse_of_eq_none (bind_of_eq_none counts.moment_eq_none),
    orElse_of_eq_none (bind_of_eq_none noNumber)]
  exact bind_of_eq_none noBoolean

end scalars

section values
variable {rest : List Char}

/-- What starts with neither a bracket nor a brace is a scalar. -/
theorem value_eq (depth : Nat) {cs : List Char} (h : ∀ c ∈ cs.head?, c ≠ '[' ∧ c ≠ '\x7b') :
    value depth cs = value 0 cs := by
  cases depth with
  | zero => rfl
  | succ depth =>
    have noArray : array (value depth) cs = none :=
      bind_of_eq_none (expect_eq_none fun c mem => (h c mem).1)
    have noTable : inlineTable (value depth) cs = none :=
      bind_of_eq_none (expect_eq_none fun c mem => (h c mem).2)
    rw [value.eq_2, orElse_of_eq_none (bind_of_eq_none (located_of_eq_none noArray)),
      orElse_of_eq_none (bind_of_eq_none (located_of_eq_none noTable))]

theorem value_of_scalar (depth : Nat) {cs : List Char} {v : Scalar}
    (h : ∀ c ∈ cs.head?, c ≠ '[' ∧ c ≠ '\x7b') (reads : scalar cs = some (v, rest)) :
    value depth cs = some (.scalar ⟨cs.length, rest.length⟩ v, rest) := by
  rw [value_eq depth h, value, bind_of_eq_some (located_of_eq_some reads)]
  rfl

theorem value_writeString (depth : Nat) (s : String) (h : Ends rest) :
    ∃ n, ShowsString s n ∧ value depth (writeString s ++ rest) = some (n, rest) := by
  obtain ⟨q, text, same, isQuote⟩ := writeString_head s
  have reads := value_of_scalar depth (by rw [same]; rcases isQuote with rfl | rfl <;> simp)
    (scalar_writeString s h)
  exact ⟨_, ⟨_, rfl⟩, reads⟩

theorem value_bracket (depth : Nat) (rest : List Char) : value depth (']' :: rest) = none := by
  rw [value_eq depth (by simp), value]
  exact bind_of_eq_none (located_of_eq_none (scalar_bracket rest))

def item (depth : Nat) : Reader Node := gap *> value depth <* gap

theorem item_writeString (depth : Nat) (spaces : List Char) (s : String)
    (all : ∀ c ∈ spaces, c = ' ' ∨ c = '\n') (h : Ends rest) (solid : ∀ c ∈ rest.head?, isSolid c) :
    ∃ n, ShowsString s n ∧ item depth (spaces ++ (writeString s ++ rest)) = some (n, rest) := by
  obtain ⟨n, shows, reads⟩ := value_writeString depth s h
  obtain ⟨q, text, same, isQuote⟩ := writeString_head s
  have opened : gap (spaces ++ (writeString s ++ rest)) = some ((), writeString s ++ rest) :=
    gap_append all (by rw [same]; rcases isQuote with rfl | rfl <;> simp <;> decide)
  exact ⟨n, shows,
    seqLeft_of_eq_some ((seqRight_of_eq_some opened).trans reads) (gap_of_solid solid)⟩

theorem item_bracket (depth : Nat) (spaces : List Char) (all : ∀ c ∈ spaces, c = ' ' ∨ c = '\n')
    (rest : List Char) : item depth (spaces ++ ']' :: rest) = none := by
  have opened := gap_append all (show ∀ c ∈ (']' :: rest).head?, isSolid c by simp; decide)
  simp [item, seqLeft_apply, seqRight_apply, opened, value_bracket]

end values

section arrays
variable {rest : List Char}

/-- A string of a list after the first, with the end of the line before it. -/
def furtherLine (s : String) : List Char := [',', '\n'] ++ ("    ".toList ++ writeString s)

/-- A line's end is written behind a string and read in front of the next one. -/
theorem furtherLines_eq (items : List String) (rest : List Char) :
    [',', '\n'] ++
        (items.flatMap (fun s => "    ".toList ++ writeString s ++ [',', '\n']) ++ rest) =
      (items.map furtherLine).flatten ++ ([',', '\n'] ++ rest) := by
  induction items with
  | nil => rfl
  | cons s items ih =>
    simp only [List.flatMap_cons, List.map_cons, List.flatten_cons, List.append_assoc,
      furtherLine] at ih ⊢
    rw [ih]

theorem many_furtherLines (depth : Nat) (items : List String) (rest : List Char) :
    ∃ nodes, List.Forall₂ ShowsString items nodes ∧
      many (expect [','] *> item depth)
          ((items.map furtherLine).flatten ++ ([',', '\n'] ++ ']' :: rest)) =
        some (nodes, [',', '\n'] ++ ']' :: rest) := by
  let follows : List Char → Prop := fun tail => ∃ more, tail = ',' :: more
  have stop : (expect [','] *> item depth) ([',', '\n'] ++ ']' :: rest) = none := by
    exact (seqRight_of_eq_some (expect_singleton ',' _)).trans
      (item_bracket depth ['\n'] (by simp) rest)
  have written :
      List.Forall₂ (fun s text => text = furtherLine s) items (items.map furtherLine) := by
    simp [List.forall₂_map_right_iff, List.forall₂_same]
  have reads : ∀ s text, text = furtherLine s → ∀ tail, follows tail →
      text ≠ [] ∧ follows (text ++ tail) ∧ ∃ n, ShowsString s n ∧
        (expect [','] *> item depth) (text ++ tail) = some (n, tail) := by
    rintro s _ rfl _ ⟨more, rfl⟩
    obtain ⟨n, shows, reads⟩ := item_writeString depth ('\n' :: "    ".toList) s (by simp)
      (⟨_, _, rfl, by simp⟩ : Ends (',' :: more)) (by simp; decide)
    refine ⟨by simp [furtherLine], ⟨_, rfl⟩, n, shows, ?_⟩
    have text : furtherLine s ++ ',' :: more =
        [','] ++ ('\n' :: "    ".toList ++ (writeString s ++ ',' :: more)) := by
      simp [furtherLine]
    rw [text, seqRight_of_eq_some (expect_append [','] _), reads]
  exact (many_flatten written reads stop ⟨_, rfl⟩).2

theorem array_eq (depth : Nat) :
    array (value depth) = expect ['['] >>= fun _ =>
      maybe (separated (expect [',']) (item depth) <* maybe (expect [','])) >>= fun items =>
      gap >>= fun _ => expect [']'] >>= fun _ => pure (items.getD []) := rfl

theorem array_of_eq_some {depth : Nat} {cs : List Char} {items? : Option (List Node)}
    (spaces : List Char) (all : ∀ c ∈ spaces, c = ' ' ∨ c = '\n')
    (reads : maybe (separated (expect [',']) (item depth) <* maybe (expect [','])) cs =
      some (items?, spaces ++ ']' :: rest)) :
    array (value depth) ('[' :: cs) = some (items?.getD [], rest) := by
  have closed := gap_append all (show ∀ c ∈ (']' :: rest).head?, isSolid c by simp; decide)
  rw [array_eq, bind_of_eq_some (expect_singleton '[' cs), bind_of_eq_some reads,
    bind_of_eq_some closed, bind_of_eq_some (expect_singleton ']' rest), pure_apply]

/-- A list of strings is read back, however many lines it takes. -/
theorem array_writeStrings (depth : Nat) (items : List String) (rest : List Char) :
    ∃ nodes, List.Forall₂ ShowsString items nodes ∧
      array (value depth) (writeStrings items ++ rest) = some (nodes, rest) := by
  match items with
  | [] =>
    have refused : item depth (']' :: rest) = none := item_bracket depth [] (by simp) rest
    have noItems : (separated (expect [',']) (item depth) <* maybe (expect [',']))
        (']' :: rest) = none := by
      simp [separated, seqLeft_apply, bind_apply, refused]
    exact ⟨[], .nil, array_of_eq_some [] (by simp) (maybe_of_eq_none noItems)⟩
  | [s] =>
    obtain ⟨n, shows, reads⟩ := item_writeString depth [] s (by simp)
      (⟨_, _, rfl, by simp⟩ : Ends (']' :: rest)) (by simp; decide)
    have noComma : expect [','] (']' :: rest) = none := expect_eq_none (by simp)
    have noMore : (expect [','] *> item depth) (']' :: rest) = none := by
      simp [seqRight_apply, noComma]
    have single := seqLeft_of_eq_some (separated_of_eq_some reads (many_of_eq_none noMore))
      (maybe_of_eq_none noComma)
    have text : writeStrings [s] ++ rest = '[' :: ([] ++ (writeString s ++ ']' :: rest)) := by
      simp [writeStrings]
    rw [text]
    exact ⟨[n], .cons shows .nil, array_of_eq_some [] (by simp) (maybe_of_eq_some single)⟩
  | s :: t :: items =>
    let others := ((t :: items).map furtherLine).flatten ++ ([',', '\n'] ++ ']' :: rest)
    obtain ⟨nodes, showOthers, readOthers⟩ := many_furtherLines depth (t :: items) rest
    obtain ⟨n, shows, reads⟩ := item_writeString depth ('\n' :: "    ".toList) s (by simp)
      (⟨_, _, rfl, by simp⟩ : Ends others) (by simp [others, furtherLine]; decide)
    have several := seqLeft_of_eq_some (separated_of_eq_some reads readOthers)
      (maybe_of_eq_some (expect_append [','] ('\n' :: ']' :: rest)))
    have text : writeStrings (s :: t :: items) ++ rest =
        '[' :: ('\n' :: "    ".toList ++ (writeString s ++ others)) := by
      have same := furtherLines_eq (t :: items) (']' :: rest)
      simp only [writeStrings, others]
      rw [← same, List.flatMap_cons]
      simp only [List.append_assoc, List.cons_append, List.nil_append]
    rw [text]
    exact ⟨n :: nodes, .cons shows showOthers,
      array_of_eq_some ['\n'] (by simp) (maybe_of_eq_some several)⟩

end arrays

/-- What is written for an entry is read as a node that shows it. -/
theorem value_write (depth : Nat) {e : Entry} {text rest : List Char}
    (written : e.write? = some text) (h : Ends rest) :
    ∃ n, Shows e n ∧ value (depth + 1) (text ++ rest) = some (n, rest) := by
  cases e with
  | string s =>
    obtain rfl : writeString s = text := by simpa [Entry.write?] using written
    obtain ⟨n, shows, reads⟩ := value_writeString (depth + 1) s h
    exact ⟨n, .string shows, reads⟩
  | number k =>
    obtain ⟨small, rfl⟩ : k < Decimal.wordLimit 63 ∧ (toString k).toList = text := by
      simpa [Entry.write?] using written
    have counts : Counts ((toString k).toList ++ rest) := .of_append (isDigit_toString k) h
    have head : ∀ c ∈ ((toString k).toList ++ rest).head?, c ≠ '[' ∧ c ≠ '\x7b' := fun c mem =>
      ⟨counts.head_ne (by decide) c mem, counts.head_ne (by decide) c mem⟩
    exact ⟨_, .number, value_of_scalar _ head (scalar_toString small h)⟩
  | strings items =>
    obtain rfl : writeStrings items = text := by simpa [Entry.write?] using written
    obtain ⟨nodes, shows, reads⟩ := array_writeStrings depth items rest
    have whole : value (depth + 1) (writeStrings items ++ rest) =
        some (.array ⟨(writeStrings items ++ rest).length, rest.length⟩ nodes, rest) := by
      rw [value.eq_2]
      exact orElse_of_eq_some (bind_of_eq_some (located_of_eq_some reads))
    exact ⟨_, .strings shows, whole⟩

end CameraBroker.Toml
