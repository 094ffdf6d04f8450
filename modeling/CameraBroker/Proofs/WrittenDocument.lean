import CameraBroker.Proofs.WrittenValues

/-! A document that is written out is read back section by section: each section under its
name, and in it each entry under its own. -/
namespace CameraBroker.Toml

structure Bare (name : String) : Prop where
  ne_nil : name.toList ≠ []
  all : ∀ c ∈ name.toList, isBare c

instance (name : String) : Decidable (Bare name) :=
  decidable_of_iff (name.toList ≠ [] ∧ name.toList.all isBare = true)
    ⟨fun h => ⟨h.1, List.all_eq_true.mp h.2⟩, fun h => ⟨h.ne_nil, List.all_eq_true.mpr h.all⟩⟩

structure ShowsEntry (e : String × Entry) (a : Assignment) : Prop where
  path : a.path = []
  name : a.key.name = e.1
  value : Shows e.2 a.value

structure ShowsSection (x : String × List (String × Entry)) (s : Section) : Prop where
  isTable : s.isElement = false
  path : s.path = []
  name : s.key.name = x.1
  body : List.Forall₂ ShowsEntry x.2 s.body

section keys
variable {name : String} {rest : List Char}

theorem Bare.head (h : Bare name) (rest : List Char) {p : Char → Prop}
    (each : ∀ c, isBare c → p c) : ∀ c ∈ (name.toList ++ rest).head?, p c := by
  rw [List.head?_append_of_ne_nil _ h.ne_nil]
  exact fun c mem => each c (h.all c (List.mem_of_mem_head? mem))

theorem ne_of_isBare {d : Char} (h : isBare d = false) : ∀ c, isBare c → c ≠ d := by
  rintro c bare rfl
  simp [h] at bare

theorem key_bare (h : Bare name) (stop : ∀ c ∈ rest.head?, isBare c = false) :
    ∃ span, key (name.toList ++ rest) = some (⟨name, span⟩, rest) := by
  have notBasic : basicString (name.toList ++ rest) = none :=
    bind_of_eq_none (expect_eq_none (h.head rest (ne_of_isBare (by decide))))
  have notLiteral : literalString (name.toList ++ rest) = none :=
    bind_of_eq_none (expect_eq_none (h.head rest (ne_of_isBare (by decide))))
  have reads : bareName (name.toList ++ rest) = some (name.toList, rest) := by
    have all := h.all
    obtain ⟨c, cs, text⟩ := List.exists_cons_of_ne_nil h.ne_nil
    rw [text] at all ⊢
    rw [bareName, List.cons_append, bind_of_eq_some (one_cons (all c (by simp))),
      bind_of_eq_some (run_append (fun d mem => all d (by simp [mem])) stop), pure_apply]
  have chosen : (basicString <|> literalString <|> bareName) (name.toList ++ rest) =
      some (name.toList, rest) := by
    rw [orElse_of_eq_none notBasic, orElse_of_eq_none notLiteral, reads]
  refine ⟨⟨(name.toList ++ rest).length, rest.length⟩, ?_⟩
  rw [key, bind_of_eq_some (located_of_eq_some chosen)]
  simp only [String.ofList_toList]
  rfl

theorem keyPath_bare (h : Bare name) (spaces rest : List Char) (blank : ∀ c ∈ spaces, isBlank c)
    (stop : ∀ c ∈ rest.head?, isBare c = false ∧ isBlank c = false ∧ c ≠ '.') :
    ∃ span, keyPath (name.toList ++ (spaces ++ rest)) = some (([], ⟨name, span⟩), rest) := by
  have blankNotBare : ∀ c, isBlank c → isBare c = false := by
    intro c isBlank
    rcases (by simpa [Toml.isBlank] using isBlank : c = ' ' ∨ c = '\t') with rfl | rfl <;> decide
  have keyStop : ∀ c ∈ (spaces ++ rest).head?, isBare c = false := by
    cases spaces with
    | nil => exact fun c mem => (stop c mem).1
    | cons d spaces => simpa using blankNotBare d (blank d (by simp))
  obtain ⟨span, reads⟩ := key_bare h keyStop
  have opened : blanks (name.toList ++ (spaces ++ rest)) =
      some ((), name.toList ++ (spaces ++ rest)) :=
    blanks_append (s := []) (by simp) (h.head _ fun c bare => by
      by_contra isBlank
      simp [blankNotBare c (by simpa using isBlank)] at bare)
  have first : (blanks *> key <* blanks) (name.toList ++ (spaces ++ rest)) =
      some (⟨name, span⟩, rest) :=
    seqLeft_of_eq_some ((seqRight_of_eq_some opened).trans reads)
      (blanks_append blank fun c mem => (stop c mem).2.1)
  have noMore : (expect ['.'] *> (blanks *> key <* blanks)) rest = none := by
    rw [seqRight_apply, expect_eq_none fun c mem => (stop c mem).2.2]
    rfl
  refine ⟨span, ?_⟩
  rw [keyPath, bind_of_eq_some (separated_of_eq_some first (many_of_eq_none noMore))]
  rfl

/-- No key starts with a bracket, and there is none at the end. -/
theorem keyPath_eq_none {cs : List Char} (h : ∀ c ∈ cs.head?, c = '[') : keyPath cs = none := by
  have head : ∀ {p : Char → Prop}, p '[' → ∀ c ∈ cs.head?, p c := fun holds c mem => h c mem ▸ holds
  have opened : blanks cs = some ((), cs) := blanks_append (s := []) (by simp) (head (by decide))
  have notBasic : basicString cs = none := bind_of_eq_none (expect_eq_none (head (by decide)))
  have notLiteral : literalString cs = none := bind_of_eq_none (expect_eq_none (head (by decide)))
  have notBare : bareName cs = none := bind_of_eq_none (one_eq_none (head (by decide)))
  have noKey : key cs = none := by
    refine bind_of_eq_none (located_of_eq_none ?_)
    rw [orElse_of_eq_none notBasic, orElse_of_eq_none notLiteral, notBare]
  refine bind_of_eq_none (bind_of_eq_none ?_)
  rw [seqLeft_apply, seqRight_of_eq_some opened, noKey]
  rfl

end keys

section entries

theorem head_write {e : Entry} {text : List Char} (written : e.write? = some text) :
    ∃ c cs, text = c :: cs ∧ isBlank c = false := by
  cases e with
  | string s =>
    obtain rfl : writeString s = text := by simpa [Entry.write?] using written
    obtain ⟨q, cs, same, isQuote⟩ := writeString_head s
    exact ⟨q, cs, same, by rcases isQuote with rfl | rfl <;> decide⟩
  | number k =>
    obtain ⟨-, rfl⟩ : k < Decimal.wordLimit 63 ∧ (toString k).toList = text := by
      simpa [Entry.write?] using written
    have digits : (toString k).toList ≠ [] := toList_toString k ▸ Nat.toDigits_ne_nil
    obtain ⟨c, cs, same⟩ := List.exists_cons_of_ne_nil digits
    have digit : c.isDigit := isDigit_toString k c (same ▸ List.mem_cons_self)
    have notSpace : c ≠ ' ' := fun e => absurd digit (by rw [e]; decide)
    have notTab : c ≠ '\t' := fun e => absurd digit (by rw [e]; decide)
    exact ⟨c, cs, same, by simp [isBlank, notSpace, notTab]⟩
  | strings items =>
    obtain rfl : writeStrings items = text := by simpa [Entry.write?] using written
    rcases items with _ | ⟨s, _ | ⟨t, items⟩⟩ <;> exact ⟨_, _, rfl, by decide⟩

def IsLine (e : String × Entry) (line : List Char) : Prop :=
  ∃ text, e.2.write? = some text ∧ line = e.1.toList ++ " = ".toList ++ text ++ ['\n']

theorem statement_line {e : String × Entry} {line : List Char} (bare : Bare e.1)
    (h : IsLine e line) (rest : List Char) :
    ∃ a, ShowsEntry e a ∧ statement (line ++ rest) = some (a, rest) := by
  obtain ⟨text, written, rfl⟩ := h
  obtain ⟨c, cs, textHead, notBlank⟩ := head_write written
  let tail := '=' :: ' ' :: (text ++ '\n' :: rest)
  obtain ⟨n, shows, readValue⟩ : ∃ n, Shows e.2 n ∧
      value (depthLimit - 1) (text ++ '\n' :: rest) = some (n, '\n' :: rest) :=
    value_write 78 written ⟨_, _, rfl, by simp⟩
  obtain ⟨span, readKey⟩ := keyPath_bare bare [' '] tail (by simp [isBlank]) (by simp [tail]; decide)
  have opened : blanks (' ' :: (text ++ '\n' :: rest)) = some ((), text ++ '\n' :: rest) :=
    blanks_append (s := [' ']) (by simp [isBlank]) (by simpa [textHead] using notBlank)
  have whole : e.1.toList ++ " = ".toList ++ text ++ ['\n'] ++ rest =
      e.1.toList ++ ([' '] ++ tail) := by
    simp [tail]
  have assigned : assignment (value (depthLimit - 1)) (e.1.toList ++ ([' '] ++ tail)) =
      some (⟨[], ⟨e.1, span⟩, n⟩, '\n' :: rest) := by
    rw [assignment, bind_of_eq_some readKey]
    simp only
    rw [bind_of_eq_some (expect_singleton _ _), bind_of_eq_some opened,
      bind_of_eq_some readValue, pure_apply]
  refine ⟨⟨[], ⟨e.1, span⟩, n⟩, ⟨rfl, rfl, shows⟩, ?_⟩
  rw [whole]
  exact seqLeft_of_eq_some assigned (restOfLine_cons rest)

end entries

/-- What may stand behind a section: nothing, or an empty line and one more section. -/
def EndsSection (rest : List Char) : Prop := rest = [] ∨ ∃ more, rest = '\n' :: '[' :: more

theorem statement_eq_none {cs : List Char} (h : ∀ c ∈ cs.head?, c = '[') : statement cs = none := by
  rw [statement, seqLeft_apply,
    show assignment _ cs = none from bind_of_eq_none (keyPath_eq_none h)]
  rfl

theorem EndsSection.statement_eq_none {rest : List Char} (h : EndsSection rest) :
    (gap *> statement) rest = none := by
  rcases h with rfl | ⟨more, rfl⟩
  · exact (seqRight_of_eq_some (gap_of_solid (by simp))).trans (Toml.statement_eq_none (by simp))
  · have opened : gap ('\n' :: '[' :: more) = some ((), '[' :: more) :=
      gap_append (s := ['\n']) (by simp) (by simp; decide)
    exact (seqRight_of_eq_some opened).trans (Toml.statement_eq_none (by simp))

theorem isSolid_of_isBare (c : Char) (bare : isBare c) : isSolid c := by
  have other : ∀ {d}, isBare d = false → c ≠ d := fun notBare => ne_of_isBare notBare c bare
  have space : c ≠ ' ' := other (by decide)
  have tab : c ≠ '\t' := other (by decide)
  have line : c ≠ '\n' := other (by decide)
  have back : c ≠ '\r' := other (by decide)
  have hash : c ≠ '#' := other (by decide)
  simp [isSolid, isBlank, space, tab, line, back, hash]

theorem many_lines {entries : List (String × Entry)} {lines : List (List Char)}
    (bare : ∀ e ∈ entries, Bare e.1) (written : List.Forall₂ IsLine entries lines)
    {rest : List Char} (h : EndsSection rest) :
    ∃ body, List.Forall₂ ShowsEntry entries body ∧
      many (gap *> statement) (lines.flatten ++ rest) = some (body, rest) := by
  have reads : ∀ e line, Bare e.1 ∧ IsLine e line → ∀ tail, True →
      line ≠ [] ∧ True ∧
        ∃ a, ShowsEntry e a ∧ (gap *> statement) (line ++ tail) = some (a, tail) := by
    rintro e line ⟨bare, isLine⟩ tail -
    obtain ⟨a, shows, reads⟩ := statement_line bare isLine tail
    obtain ⟨text, -, same⟩ := isLine
    have opened : gap (line ++ tail) = some ((), line ++ tail) := by
      refine gap_of_solid ?_
      simp only [same, List.append_assoc]
      exact bare.head _ isSolid_of_isBare
    exact ⟨by simp [same], trivial, a, shows, (seqRight_of_eq_some opened).trans reads⟩
  have pieces := List.forall₂_and_left _ _ |>.mpr ⟨bare, written⟩
  exact (many_flatten pieces reads h.statement_eq_none trivial).2

section sections

theorem header_bare {name : String} (bare : Bare name) (rest : List Char) :
    ∃ span keySpan, header ('[' :: name.toList ++ [']', '\n'] ++ rest) =
      some ((span, false, [], ⟨name, keySpan⟩), rest) := by
  let tail := name.toList ++ ([] ++ ']' :: '\n' :: rest)
  have text : '[' :: name.toList ++ [']', '\n'] ++ rest = '[' :: tail := by simp [tail]
  obtain ⟨keySpan, readKey⟩ :=
    keyPath_bare bare [] (']' :: '\n' :: rest) (by simp) (by simp; decide)
  have notDouble : expect ['[', '['] ('[' :: tail) = none := by
    rw [expect_cons]
    exact expect_eq_none (bare.head _ (ne_of_isBare (by decide)))
  have single : (do expect ['[']; let path ← keyPath; expect [']']; pure (false, path) :
      Reader (Bool × List Key × Key)) ('[' :: tail) =
        some ((false, [], ⟨name, keySpan⟩), '\n' :: rest) := by
    rw [bind_of_eq_some (expect_singleton _ _), bind_of_eq_some readKey,
      bind_of_eq_some (expect_singleton _ _), pure_apply]
  rw [text]
  exact ⟨_, _, seqLeft_of_eq_some
    (located_of_eq_some ((orElse_of_eq_none (bind_of_eq_none notDouble)).trans single))
    (restOfLine_cons rest)⟩

def IsSection (x : String × List (String × Entry)) (text : List Char) : Prop :=
  ∃ lines, List.Forall₂ IsLine x.2 lines ∧
    text = '[' :: x.1.toList ++ [']', '\n'] ++ lines.flatten

def BareSection (x : String × List (String × Entry)) : Prop := Bare x.1 ∧ ∀ e ∈ x.2, Bare e.1

theorem tableSection_text {x : String × List (String × Entry)} {text rest : List Char}
    (bare : BareSection x) (isSection : IsSection x text) (h : EndsSection rest) :
    ∃ s, ShowsSection x s ∧ tableSection (text ++ rest) = some (s, rest) := by
  obtain ⟨lines, written, rfl⟩ := isSection
  obtain ⟨span, keySpan, readHeader⟩ := header_bare bare.1 (lines.flatten ++ rest)
  obtain ⟨body, shows, readBody⟩ := many_lines bare.2 written h
  refine ⟨⟨false, span, [], ⟨x.1, keySpan⟩, body⟩, ⟨rfl, rfl, rfl, shows⟩, ?_⟩
  rw [List.append_assoc, tableSection, bind_of_eq_some readHeader]
  simp only
  rw [bind_of_eq_some readBody, pure_apply]

theorem IsSection.head {x : String × List (String × Entry)} {text : List Char}
    (h : IsSection x text) : ∃ more, text = '[' :: more := by
  obtain ⟨lines, -, rfl⟩ := h
  exact ⟨_, rfl⟩

theorem intercalate_cons_eq (c : Char) (text : List Char) (texts : List (List Char)) :
    [c].intercalate (text :: texts) = text ++ (texts.map (c :: ·)).flatten := by
  induction texts generalizing text with
  | nil => simp
  | cons next texts ih =>
    rw [List.intercalate_cons_cons, ih next]
    simp

/-- Sections in a row, each after the first with an empty line before it. -/
theorem many_sections {xs : List (String × List (String × Entry))} {texts : List (List Char)}
    (bare : ∀ x ∈ xs, BareSection x) (written : List.Forall₂ IsSection xs texts) :
    ∃ sections, List.Forall₂ ShowsSection xs sections ∧
      many (gap *> tableSection) (['\n'].intercalate texts) = some (sections, []) := by
  have solid : ∀ more, ∀ c ∈ ('[' :: more).head?, isSolid c := fun more => by simp; decide
  have stop : (gap *> tableSection) [] = none := by
    rw [seqRight_of_eq_some (gap_of_solid (by simp)), tableSection, header]
    refine bind_of_eq_none ?_
    rw [seqLeft_apply, located_of_eq_none]
    · rfl
    · simp [orElse_apply, bind_apply, expect]
  cases written with
  | nil => exact ⟨[], .nil, many_of_eq_none stop⟩
  | @cons x text xs texts isSection others =>
    let lined : List (List Char) := texts.map ('\n' :: ·)
    have reads : ∀ x t, BareSection x ∧ (∃ u, IsSection x u ∧ t = '\n' :: u) →
        ∀ tail, EndsSection tail → t ≠ [] ∧ EndsSection (t ++ tail) ∧
          ∃ s, ShowsSection x s ∧ (gap *> tableSection) (t ++ tail) = some (s, tail) := by
      rintro x _ ⟨bare, u, isSection, rfl⟩ tail ends
      obtain ⟨more, head⟩ := isSection.head
      obtain ⟨s, shows, reads⟩ := tableSection_text bare isSection ends
      have opened : gap ('\n' :: u ++ tail) = some ((), u ++ tail) :=
        gap_append (s := ['\n']) (by simp) (by simpa [head] using solid more)
      exact ⟨by simp, .inr ⟨more ++ tail, by simp [head]⟩, s, shows,
        (seqRight_of_eq_some opened).trans reads⟩
    have isLined : List.Forall₂ (fun x t => ∃ u, IsSection x u ∧ t = '\n' :: u) xs lined :=
      List.forall₂_map_right_iff.mpr (others.imp fun _ u isSection => ⟨u, isSection, rfl⟩)
    have pieces := (List.forall₂_and_left _ _).mpr ⟨fun x mem => bare x (by simp [mem]), isLined⟩
    obtain ⟨ends, sections, showOthers, readOthers⟩ := many_flatten pieces reads stop (.inl rfl)
    obtain ⟨more, head⟩ := isSection.head
    obtain ⟨s, shows, readFirst⟩ := tableSection_text (bare x (by simp)) isSection ends
    have opened : gap (text ++ (lined.flatten ++ [])) = some ((), text ++ (lined.flatten ++ [])) :=
      gap_of_solid (by simpa [head] using solid more)
    have whole := many_append ((seqRight_of_eq_some opened).trans readFirst) (by simp [head])
      readOthers
    rw [List.append_nil] at whole
    exact ⟨s :: sections, .cons shows showOthers, (intercalate_cons_eq '\n' text texts) ▸ whole⟩

end sections

theorem forall₂_of_mapM {α β : Type} {f : α → Option β} {xs : List α} {ys : List β}
    (h : xs.mapM f = some ys) : List.Forall₂ (fun x y => f x = some y) xs ys := by
  induction xs generalizing ys with
  | nil =>
    obtain rfl : ys = [] := by simpa using h.symm
    exact .nil
  | cons x xs ih =>
    rw [List.mapM_cons] at h
    obtain ⟨y, first, h⟩ := Option.bind_eq_some_iff.mp h
    obtain ⟨zs, others, h⟩ := Option.bind_eq_some_iff.mp h
    obtain rfl : y :: zs = ys := by simpa using h
    exact .cons first (ih others)

theorem isSome_bind_some {α β : Type} (a? : Option α) (f : α → β) :
    (a?.bind fun a => some (f a)).isSome = a?.isSome := by
  cases a? <;> rfl

theorem isSome_mapM {α β : Type} (f : α → Option β) (xs : List α) :
    (xs.mapM f).isSome ↔ ∀ x ∈ xs, (f x).isSome := by
  induction xs with
  | nil => simp
  | cons x xs ih =>
    rw [List.forall_mem_cons, ← ih, List.mapM_cons]
    cases f x <;> cases xs.mapM f <;> simp

/-- A document can be written unless it has a number of more than 63 bits. -/
theorem isSome_writeDocument (xs : List (String × List (String × Entry))) :
    (writeDocument? xs).isSome ↔
      ∀ x ∈ xs, ∀ e ∈ x.2, ∀ n, e.2 = .number n → n < Decimal.wordLimit 63 := by
  have written : ∀ e : Entry, e.write?.isSome ↔ ∀ n, e = .number n → n < Decimal.wordLimit 63 := by
    intro e
    cases e <;> simp [Entry.write?]
  have lines : ∀ x : String × List (String × Entry), (writeSection? x.1 x.2).isSome ↔
      ∀ e ∈ x.2, ∀ n, e.2 = .number n → n < Decimal.wordLimit 63 := by
    intro x
    simp only [writeSection?, Option.pure_def, Option.bind_eq_bind, isSome_bind_some, isSome_mapM,
      written]
  simp only [writeDocument?, Option.pure_def, Option.bind_eq_bind, isSome_bind_some, isSome_mapM,
    lines]

theorem isSection_of_writeSection {x : String × List (String × Entry)} {text : List Char}
    (h : writeSection? x.1 x.2 = some text) : IsSection x text := by
  obtain ⟨lines, written, same⟩ := Option.bind_eq_some_iff.mp h
  refine ⟨lines, (forall₂_of_mapM written).imp fun e line isLine => ?_, by simpa using same.symm⟩
  obtain ⟨value, isValue, whole⟩ := Option.bind_eq_some_iff.mp isLine
  exact ⟨value, isValue, by simpa using whole.symm⟩

/-- A document that is written out is read back, if its names can stand without quotes. -/
theorem document_written {xs : List (String × List (String × Entry))} {text : List Char}
    (bare : ∀ x ∈ xs, BareSection x) (written : writeDocument? xs = some text) :
    ∃ sections, List.Forall₂ ShowsSection xs sections ∧
      whole? document text = some ⟨[], sections⟩ := by
  obtain ⟨texts, isWritten, joined⟩ := Option.bind_eq_some_iff.mp written
  have isSections := (forall₂_of_mapM isWritten).imp fun x t => isSection_of_writeSection
  obtain ⟨sections, shows, reads⟩ := many_sections bare isSections
  obtain rfl : ['\n'].intercalate texts = text := by simpa using joined
  have head : ∀ c ∈ (['\n'].intercalate texts).head?, c = '[' := by
    cases isSections with
    | nil => simp
    | cons isSection =>
      obtain ⟨more, rfl⟩ := isSection.head
      simp [intercalate_cons_eq]
  have unmarked : expect ['\ufeff'] (['\n'].intercalate texts) = none :=
    expect_eq_none fun c mem => by rw [head c mem]; decide
  have opened : gap (['\n'].intercalate texts) = some ((), ['\n'].intercalate texts) :=
    gap_of_solid fun c mem => by rw [head c mem]; decide
  have noTop : (gap *> statement) (['\n'].intercalate texts) = none :=
    (seqRight_of_eq_some opened).trans (statement_eq_none head)
  have closed : gap [] = some ((), []) := gap_of_solid (by simp)
  have whole : document (['\n'].intercalate texts) = some (⟨[], sections⟩, []) := by
    rw [document, bind_of_eq_some (maybe_of_eq_none unmarked),
      bind_of_eq_some (many_of_eq_none noTop), bind_of_eq_some reads, bind_of_eq_some closed,
      pure_apply]
  refine ⟨sections, shows, ?_⟩
  rw [whole?, seqLeft_of_eq_some whole (show finish [] = some ((), []) from rfl)]
  rfl

end CameraBroker.Toml
