import CameraBroker.Proofs.ReadTables
import CameraBroker.Toml.Schema

/-! How a schema takes the entries of a table: each part of the value comes from one entry, if there
is one, and from no other. What the entries can hold is said apart from how they are read. -/
namespace CameraBroker

namespace Toml
variable {σ α : Type}

theorem Table.Sound.find?_of_mem {t : Table} {e : Key × Node} (h : t.Sound) (mem : e ∈ t.entries) :
    t.find? e.1.name = some e.2 := by
  have present : (t.entries.find? fun x => x.1.name = e.1.name).isSome :=
    List.find?_isSome.2 ⟨e, mem, decide_eq_true rfl⟩
  obtain ⟨e', found⟩ := Option.isSome_iff_exists.1 present
  have same : e'.1.name = e.1.name := by simpa using List.find?_some found
  have one : e' = e :=
    List.inj_on_of_nodup_map h.distinct (List.mem_of_find?_eq_some found) mem same
  exact Option.map_eq_some_iff.2 ⟨e', found, one ▸ rfl⟩

def Field.Keeps (f : Field σ) (get : σ → α) : Prop :=
  ∀ place n s s', f.take place n s = .ok s' → get s' = get s

namespace Schema
variable {schema : Schema σ} {f : Field σ} {get : σ → α} {entries : List (Key × Node)} {s s' : σ}
  {name : String}

def takeEntry (schema : Schema σ) (s : σ) (e : Key × Node) : Except Fault σ :=
  match schema.find? fun f => f.name = e.1.name with
  | some f => f.take (placeOf e.1 e.2) e.2 s
  | none => .ok s

theorem takeEntries_cons (schema : Schema σ) (e : Key × Node) (entries : List (Key × Node))
    (s : σ) :
    schema.takeEntries (e :: entries) s = schema.takeEntry s e >>= schema.takeEntries entries := rfl

theorem takeEntries_cons_eq_ok {e : Key × Node} :
    schema.takeEntries (e :: entries) s = .ok s' ↔
      ∃ u, schema.takeEntry s e = .ok u ∧ schema.takeEntries entries u = .ok s' := by
  rw [takeEntries_cons]
  cases schema.takeEntry s e with
  | error => simp [bind, Except.bind]
  | ok u => simp [bind, Except.bind]

theorem get_takeEntry {e : Key × Node} (keeps : ∀ f ∈ schema, f.name = e.1.name → f.Keeps get)
    (takes : schema.takeEntry s e = .ok s') : get s' = get s := by
  unfold takeEntry at takes
  split at takes
  · rename_i f found
    have named : f.name = e.1.name := by simpa using List.find?_some found
    exact keeps f (List.mem_of_find?_eq_some found) named _ _ _ _ takes
  · cases takes
    rfl

/-- Entries that do not concern a part leave it as it is. -/
theorem get_takeEntries (keeps : ∀ e ∈ entries, ∀ f ∈ schema, f.name = e.1.name → f.Keeps get)
    (takes : schema.takeEntries entries s = .ok s') : get s' = get s := by
  induction entries generalizing s with
  | nil =>
    cases takes
    rfl
  | cons e entries ih =>
    obtain ⟨u, first, others⟩ := takeEntries_cons_eq_ok.1 takes
    obtain ⟨own, rest⟩ := List.forall_mem_cons.1 keeps
    exact (ih rest others).trans (get_takeEntry own first)

/-- A section keeps what all of its fields keep. -/
theorem keeps_take (keeps : ∀ f ∈ schema, f.Keeps get) (label : String) :
    Field.Keeps ⟨name, schema.take label⟩ get := by
  intro place n s s' takes
  have items : ∀ (xs : List (Field σ × Node)) (s : σ), (∀ x ∈ xs, x.1 ∈ schema) →
      xs.foldlM (fun s x => x.1.take (x.2.span?.getD place) x.2 s) s = .ok s' → get s' = get s := by
    intro xs
    induction xs with
    | nil =>
      rintro s - ⟨⟩
      rfl
    | cons x xs ih =>
      intro s mem takes
      obtain ⟨own, rest⟩ := List.forall_mem_cons.1 mem
      rw [List.foldlM_cons] at takes
      cases first : x.1.take (x.2.span?.getD place) x.2 s with
      | error => simp [first, bind, Except.bind] at takes
      | ok u =>
        simp only [first, bind, Except.bind] at takes
        exact (ih u rest takes).trans (keeps _ own _ _ _ _ first)
  simp only [take] at takes
  split at takes
  · exact get_takeEntries (fun _ _ f mem _ => keeps f mem) takes
  · cases takes
    rfl
  · split at takes
    · exact items _ s (fun x mem => (List.of_mem_zip mem).1) takes
    · cases takes

/-- If one field is in charge of a part, then the part comes from the entry of that name, or else it
stays as it is. -/
theorem takeEntries_cases (found : schema.find? (fun f => f.name = name) = some f)
    (keeps : ∀ f' ∈ schema, f'.name ≠ name → f'.Keeps get)
    (distinct : (entries.map (·.1.name)).Nodup) (takes : schema.takeEntries entries s = .ok s') :
    (entries.find? fun e => e.1.name = name) = none ∧ get s' = get s ∨
      ∃ e place u u', (entries.find? fun e => e.1.name = name) = some e ∧ get u = get s ∧
        f.take place e.2 u = .ok u' ∧ get s' = get u' := by
  induction entries generalizing s with
  | nil =>
    cases takes
    exact .inl ⟨rfl, rfl⟩
  | cons e entries ih =>
    obtain ⟨u, first, others⟩ := takeEntries_cons_eq_ok.1 takes
    obtain ⟨new, distinct⟩ := List.nodup_cons.1 distinct
    by_cases named : e.1.name = name
    · subst named
      have others_keep : ∀ e' ∈ entries, ∀ f' ∈ schema, f'.name = e'.1.name → f'.Keeps get :=
        fun e' mem f' hf same => keeps f' hf fun again =>
          new (List.mem_map.2 ⟨e', mem, same.symm.trans again⟩)
      have rest : get s' = get u := get_takeEntries others_keep others
      simp only [takeEntry, found] at first
      exact .inr ⟨e, _, s, u, by simp, rfl, first, rest⟩
    · have same : get u = get s :=
        get_takeEntry (fun f' hf own => keeps f' hf fun again => named (own.symm.trans again)) first
      simp only [List.find?_cons_of_neg (p := fun e : Key × Node => decide (e.1.name = name))
        (by simpa using named), ← same]
      exact ih distinct others

/-- Entries are taken over if each one is. -/
theorem exists_takeEntries
    (takes : ∀ e ∈ entries, ∀ f ∈ schema, f.name = e.1.name → ∀ place s,
      ∃ s', f.take place e.2 s = .ok s')
    (s : σ) : ∃ s', schema.takeEntries entries s = .ok s' := by
  induction entries generalizing s with
  | nil => exact ⟨s, rfl⟩
  | cons e entries ih =>
    obtain ⟨own, rest⟩ := List.forall_mem_cons.1 takes
    have first : ∃ u, schema.takeEntry s e = .ok u := by
      unfold takeEntry
      split
      · rename_i f found
        have named : f.name = e.1.name := by simpa using List.find?_some found
        exact own f (List.mem_of_find?_eq_some found) named _ _
      · exact ⟨s, rfl⟩
    obtain ⟨u, first⟩ := first
    obtain ⟨s', others⟩ := ih rest u
    exact ⟨s', takeEntries_cons_eq_ok.2 ⟨u, first, others⟩⟩

end Schema

inductive Kind where
  | text
  | number (width : Nat)
  | texts

inductive Value where
  | text (s : String)
  | number (n : Nat)
  | texts (ss : List String)
deriving DecidableEq, Repr

def Node.isTable : Node → Bool
  | .table _ => true
  | _ => false

def Node.string? : Node → Option String
  | .scalar _ (.string s) => some s
  | _ => none

def Node.whole? (width : Nat) : Node → Option Nat
  | .scalar _ (.number (.integer i)) => if 0 ≤ i ∧ i < 2 ^ width then some i.toNat else none
  | _ => none

def Kind.value? : Kind → Node → Option Value
  | .text, n => n.string?.map .text
  | .number width, n => (n.whole? width).map .number
  | .texts, n => (n.items?.bind (·.mapM Node.string?)).map .texts

theorem Node.isTable_iff {n : Node} : n.isTable ↔ ∃ u, n = .table u := by
  cases n <;> simp [isTable]

theorem readString_eq_ok {place : Span} {n : Node} {s : String} :
    readString place n = .ok s ↔ n.string? = some s := by
  unfold readString Node.string?
  split <;> simp

theorem mapM_readString_eq_ok {place : Node → Span} {items : List Node} {ss : List String} :
    (items.mapM fun item => readString (place item) item) = .ok ss ↔
      items.mapM Node.string? = some ss := by
  induction items generalizing ss with
  | nil => simp [pure, Except.pure]
  | cons n items ih =>
    have first : ∀ s, readString (place n) n = .ok s ↔ n.string? = some s :=
      fun _ => readString_eq_ok
    rw [List.mapM_cons, List.mapM_cons]
    cases reads : readString (place n) n with
    | error e =>
      have none : n.string? = none := Option.eq_none_iff_forall_ne_some.2 fun s given => by
        cases reads.symm.trans ((first s).2 given)
      simp [none, bind, Except.bind]
    | ok s =>
      have given := (first s).1 reads
      cases others : items.mapM fun item => readString (place item) item with
      | error e =>
        have none : items.mapM Node.string? = none :=
          Option.eq_none_iff_forall_ne_some.2 fun ss given => by
            cases others.symm.trans (ih.2 given)
        simp [given, none, bind, Except.bind]
      | ok ss =>
        simp [given, ih.1 others, bind, Except.bind, pure, Except.pure]

theorem readStrings_eq_ok {place : Span} {n : Node} {ss : List String} :
    readStrings place n = .ok ss ↔ n.items?.bind (·.mapM Node.string?) = some ss := by
  unfold readStrings
  cases n.items? with
  | none => simp
  | some items => exact mapM_readString_eq_ok

theorem readUnsigned_eq_ok {width : Nat} {place : Span} {n : Node} {v : Nat} :
    readUnsigned width place n = .ok v ↔ n.whole? width = some v := by
  have limit : (Decimal.wordLimit width : Int) = 2 ^ width := Nat.cast_pow 2 width
  unfold readUnsigned Node.whole?
  rw [limit]
  split
  · dsimp only
    split <;> simp
  · simp

theorem Node.whole?_lt {n : Node} {width v : Nat} (h : n.whole? width = some v) :
    v < 2 ^ width := by
  unfold Node.whole? at h
  split at h
  · split at h
    · rename_i inRange
      cases h
      exact (Int.toNat_lt inRange.1).2 (by exact_mod_cast inRange.2)
    · cases h
  · cases h

/-- No document has a whole number that needs 64 bits without a sign. -/
theorem Node.Sound.whole? {n : Node} (h : n.Sound) : n.whole? 64 = n.whole? 63 := by
  unfold Node.whole?
  split
  · rename_i span i
    cases h with
    | scalar small =>
      have below := (small _ rfl i rfl).2
      refine if_congr ?_ rfl rfl
      omega
  · rfl

end Toml

end CameraBroker
