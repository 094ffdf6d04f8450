import CameraBroker.Proofs.WrittenTables
import Mathlib.Data.List.Nodup

/-! What every document is read as: a table that gives each name once, with such tables below, and
whole numbers that 64 bits can hold. -/
namespace CameraBroker.Toml
variable {α β : Type}

/-- All that a reader takes off a text has a property. -/
def Yields (r : Reader α) (P : α → Prop) : Prop := ∀ cs a rest, r cs = some (a, rest) → P a

namespace Yields
variable {r s : Reader α} {P : α → Prop} {Q : β → Prop}

theorem pure {a : α} (h : P a) : Yields (Pure.pure a) P := by
  rintro cs _ rest ⟨⟩
  exact h

theorem failure : Yields (Alternative.failure : Reader α) P := nofun

theorem bind {f : α → Reader β} (first : Yields r P) (next : ∀ a, P a → Yields (f a) Q) :
    Yields (r >>= f) Q := by
  intro cs b rest reads
  rw [bind_apply] at reads
  obtain ⟨⟨a, mid⟩, begins, ends⟩ := Option.bind_eq_some_iff.1 reads
  exact next a (first cs a mid begins) mid b rest ends

/-- What was read before does not matter. -/
theorem after {f : α → Reader β} (next : ∀ a, Yields (f a) Q) : Yields (r >>= f) Q :=
  Yields.bind (P := fun _ => True) (fun _ _ _ _ => trivial) fun a _ => next a

theorem orElse (left : Yields r P) (right : Yields s P) : Yields (r <|> s) P := by
  intro cs a rest reads
  rw [orElse_apply] at reads
  cases reads' : r cs with
  | none =>
    rw [reads'] at reads
    exact right cs a rest reads
  | some x =>
    rw [reads'] at reads
    cases reads
    exact left cs a rest reads'

theorem seqLeft {s : Reader β} (h : Yields r P) : Yields (r <* s) P := by
  intro cs a rest reads
  rw [seqLeft_apply] at reads
  obtain ⟨⟨a', mid⟩, begins, others⟩ := Option.bind_eq_some_iff.1 reads
  obtain ⟨_, -, same⟩ := Option.bind_eq_some_iff.1 others
  cases same
  exact h cs _ mid begins

theorem seqRight {s : Reader β} (h : Yields s Q) : Yields (r *> s) Q := by
  intro cs b rest reads
  rw [seqRight_apply] at reads
  obtain ⟨⟨a, mid⟩, -, ends⟩ := Option.bind_eq_some_iff.1 reads
  exact h mid b rest ends

theorem maybe (h : Yields r P) : Yields (maybe r) (fun a? => ∀ a ∈ a?, P a) := by
  intro cs a? rest reads a given
  cases reads' : r cs with
  | none =>
    rw [maybe_of_eq_none reads'] at reads
    cases reads
    cases given
  | some x =>
    rw [maybe_of_eq_some reads'] at reads
    cases reads
    cases given
    exact h cs x.1 x.2 reads'

theorem located (h : Yields r P) : Yields (located r) (fun x => P x.2) := by
  intro cs a rest reads
  obtain ⟨x, reads', same⟩ := Option.map_eq_some_iff.1 reads
  cases same
  exact h cs x.1 x.2 reads'

theorem many (h : Yields r P) : Yields (many r) (fun as => ∀ a ∈ as, P a) := by
  intro cs as rest reads
  obtain rfl : (manyFrom r cs).1 = as := congrArg Prod.fst (Option.some.inj reads)
  clear reads
  fun_induction manyFrom r cs with
  | case1 => exact fun _ none => absurd none List.not_mem_nil
  | case2 cs a rest reads shorter others ih => exact List.forall_mem_cons.2 ⟨h cs a rest reads, ih⟩
  | case3 => exact fun _ none => absurd none List.not_mem_nil

theorem separated {separator : Reader Unit} (h : Yields r P) :
    Yields (separated separator r) (fun as => ∀ a ∈ as, P a) :=
  h.bind fun _ first => h.seqRight.many.bind fun _ others =>
    .pure (List.forall_mem_cons.2 ⟨first, others⟩)

theorem liftM {a? : Option α} (h : ∀ a ∈ a?, P a) : Yields (liftM a? : Reader α) P := by
  intro cs a rest reads
  rw [liftM_apply] at reads
  obtain ⟨a', given, same⟩ := Option.map_eq_some_iff.1 reads
  cases same
  exact h _ given

end Yields

def Number.Small (n : Number) : Prop := ∀ i : Int, n = .integer i → -2 ^ 63 ≤ i ∧ i < 2 ^ 63

mutual

inductive Node.Sound : Node → Prop where
  | scalar {span : Span} {v : Scalar} (small : ∀ n, v = .number n → n.Small) :
      Node.Sound (.scalar span v)
  | array {span : Span} {items : List Node} (items_sound : ∀ n ∈ items, n.Sound) :
      Node.Sound (.array span items)
  | table {t : Table} (sound : t.Sound) : Node.Sound (.table t)
  | tables {ts : List Table} (sound : ∀ t ∈ ts, t.Sound) : Node.Sound (.tables ts)

inductive Table.Sound : Table → Prop where
  | mk {t : Table} (distinct : t.names.Nodup) (entries : ∀ e ∈ t.entries, e.2.Sound) : t.Sound

end

theorem Table.Sound.distinct {t : Table} : t.Sound → t.names.Nodup | .mk distinct _ => distinct

theorem Table.Sound.entries {t : Table} : t.Sound → ∀ e ∈ t.entries, e.2.Sound
  | .mk _ entries => entries

namespace Table
variable {t t' : Table} {k : Key} {n : Node} {name : String}

theorem mem_of_find? (found : t.find? name = some n) : ∃ k, (k, n) ∈ t.entries ∧ k.name = name := by
  obtain ⟨⟨k, m⟩, first, rfl⟩ := Option.map_eq_some_iff.1 found
  exact ⟨k, List.mem_of_find?_eq_some first, by simpa using List.find?_some first⟩

theorem sound_empty (origin : Origin) (span : Option Span) : (empty origin span).Sound :=
  .mk List.nodup_nil nofun

namespace Sound

theorem find? (h : t.Sound) (found : t.find? name = some n) : n.Sound := by
  obtain ⟨k, mem, -⟩ := mem_of_find? found
  exact h.entries _ mem

theorem child {u : Table} (h : t.Sound) (found : t.find? name = some (.table u)) : u.Sound := by
  cases h.find? found with
  | table sound => exact sound

theorem children {us : List Table} (h : t.Sound) (found : t.find? name = some (.tables us)) :
    ∀ u ∈ us, u.Sound := by
  cases h.find? found with
  | tables sound => exact sound

theorem append (h : t.Sound) (new : k.name ∉ t.names) (sound : n.Sound) :
    Table.Sound { t with entries := t.entries ++ [(k, n)] } := by
  refine .mk ?_ ?_
  · have distinct := List.nodup_append.2 ⟨h.distinct, List.nodup_singleton k.name, ?_⟩
    · simpa [names] using distinct
    · rintro a old b only rfl
      exact new (List.mem_singleton.1 only ▸ old)
  · exact List.forall_mem_append.2 ⟨h.entries, by simpa using sound⟩

theorem insert (h : t.Sound) (sound : n.Sound) : (t.insert k n).Sound := by
  unfold Table.insert
  split
  · refine .mk ?_ ?_
    · have same : (t.entries.map fun e =>
          if e.1.name = k.name then (e.1, n) else e).map (·.1.name) = t.names := by
        rw [List.map_map]
        refine List.map_congr_left fun e _ => ?_
        simp only [Function.comp]
        split <;> rfl
      rw [names, same]
      exact h.distinct
    · intro e mem
      obtain ⟨e', old, rfl⟩ := List.mem_map.1 mem
      split
      · exact sound
      · exact h.entries e' old
  · rename_i new
    exact h.append (by simpa [Table.find?, names] using new) sound

theorem erase (h : t.Sound) (name : String) : (t.erase name).Sound :=
  .mk (h.distinct.sublist (List.filter_sublist.map _)) fun e mem =>
    h.entries e (List.mem_filter.1 mem).1

theorem add (h : t.Sound) (sound : n.Sound) (adds : t.add k n = some t') : t'.Sound := by
  unfold Table.add at adds
  split at adds
  · cases adds
  · cases adds
    exact h.insert sound

theorem follow {dotted : Bool} {f : Table → Option Table} {path : List Key}
    (step : ∀ u u', u.Sound → f u = some u' → u'.Sound) (h : t.Sound)
    (follows : t.follow dotted f path = some t') : t'.Sound := by
  induction path generalizing t t' with
  | nil => exact step t t' h follows
  | cons k path ih =>
    rw [Table.follow] at follows
    split at follows
    · obtain ⟨u, below, same⟩ := Option.bind_eq_some_iff.1 follows
      cases same
      exact h.insert (.table (ih (sound_empty _ _) below))
    · rename_i u found
      split at follows
      · obtain ⟨u', below, same⟩ := Option.bind_eq_some_iff.1 follows
        cases same
        exact h.insert (.table (ih (h.child found) below))
      · cases follows
    · rename_i us found
      obtain ⟨last, isLast, rest⟩ := Option.bind_eq_some_iff.1 follows
      obtain ⟨u', below, same⟩ := Option.bind_eq_some_iff.1 rest
      cases same
      have each := h.children found
      have changed := ih (each last (List.mem_of_getLast? isLast)) below
      refine h.insert (.tables (List.forall_mem_append.2 ⟨fun u mem => ?_, by simpa using changed⟩))
      exact each u (((List.dropLast_sublist us).subset mem))
    · cases follows

theorem assign {a : Assignment} (h : t.Sound) (sound : a.value.Sound)
    (assigns : t.assign a = some t') : t'.Sound := by
  refine h.follow (fun u u' hu adds => ?_) assigns
  split at adds
  · exact hu.add sound adds
  · cases adds

theorem assignAll {body : List Assignment} (h : t.Sound) (sound : ∀ a ∈ body, a.value.Sound)
    (assigns : Table.assignAll body t = some t') : t'.Sound := by
  induction body generalizing t with
  | nil =>
    cases assigns
    exact h
  | cons a body ih =>
    rw [Table.assignAll, List.foldlM_cons] at assigns
    obtain ⟨u, first, others⟩ := Option.bind_eq_some_iff.1 assigns
    obtain ⟨given, rest⟩ := List.forall_mem_cons.1 sound
    exact ih (h.assign given first) rest others

theorem ofSection {s : Section} {entries : List (Key × Node)}
    (old : ∀ origin span, Table.Sound ⟨origin, span, entries⟩)
    (sound : ∀ a ∈ s.body, a.value.Sound) (made : Table.ofSection s entries = some t') : t'.Sound :=
  (old _ _).assignAll sound made

theorem place {s : Section} (h : t.Sound) (sound : ∀ a ∈ s.body, a.value.Sound)
    (placed : t.place s = some t') : t'.Sound := by
  have fresh : ∀ {u : Table}, Table.ofSection s [] = some u → u.Sound :=
    ofSection (fun _ _ => .mk List.nodup_nil nofun) sound
  unfold Table.place at placed
  split at placed
  · obtain ⟨u, made, adds⟩ := Option.bind_eq_some_iff.1 placed
    exact h.add (.table (fresh made)) adds
  · rename_i old found _
    split at placed
    · obtain ⟨u, made, adds⟩ := Option.bind_eq_some_iff.1 placed
      have before := h.child found
      have more := ofSection (fun _ _ => .mk before.distinct before.entries) sound made
      exact (h.erase _).add (.table more) adds
    · cases placed
  · obtain ⟨u, made, adds⟩ := Option.bind_eq_some_iff.1 placed
    exact h.add (.tables (by simpa using fresh made)) adds
  · rename_i us found _
    obtain ⟨u, made, same⟩ := Option.bind_eq_some_iff.1 placed
    cases same
    have last : ∀ v ∈ [u], v.Sound := by simpa using fresh made
    exact h.insert (.tables (List.forall_mem_append.2 ⟨h.children found, last⟩))
  · cases placed

end Sound

end Table

structure Document.Sound (d : Document) : Prop where
  top : ∀ a ∈ d.top, a.value.Sound
  sections : ∀ s ∈ d.sections, ∀ a ∈ s.body, a.value.Sound

theorem Document.Sound.table? {d : Document} {t : Table} (h : d.Sound)
    (describes : d.table? = some t) : t.Sound := by
  obtain ⟨root, begins, places⟩ := Option.bind_eq_some_iff.1 describes
  have sound := (Table.sound_empty _ _).assignAll h.top begins
  have sections := h.sections
  clear begins describes
  generalize d.sections = ss at sections places
  induction ss generalizing root with
  | nil =>
    cases places
    exact sound
  | cons s ss ih =>
    rw [List.foldlM_cons] at places
    obtain ⟨u, first, others⟩ := Option.bind_eq_some_iff.1 places
    obtain ⟨body, rest⟩ := List.forall_mem_cons.1 sections
    exact ih u (sound.follow (fun _ _ hu placed => hu.place body placed) first) rest others

section readers

theorem small_integer? (i : Int) : ∀ n ∈ integer? i, n.Small := by
  rintro n given j rfl
  unfold integer? at given
  split at given
  · rename_i small
    cases given
    exact small
  · cases given

theorem yields_decimal : Yields decimal Number.Small := by
  refine .after fun negative => .after fun ints => .after fun behind => .after fun exponent => ?_
  split
  · exact .liftM (small_integer? _)
  · dsimp only
    split
    · exact .failure
    · exact .pure nofun

theorem yields_number : Yields number Number.Small := by
  have marked : ∀ mark base, Yields (marked mark base) Number.Small := fun _ _ =>
    .after fun _ => .after fun _ => .liftM (small_integer? _)
  have special : Yields special Number.Small :=
    .after fun _ => .orElse (.after fun _ => .pure nofun) (.after fun _ => .pure nofun)
  exact (marked _ _).orElse <| (marked _ _).orElse <| (marked _ _).orElse <|
    yields_decimal.orElse special

theorem yields_scalar : Yields scalar fun v => ∀ n, v = .number n → n.Small := by
  have others : ∀ v : Scalar, (∀ n, v ≠ .number n) → ∀ n, v = .number n → n.Small :=
    fun v other n same => absurd same (other n)
  refine .orElse (.after fun _ => .pure nofun) (.orElse (.after fun _ => .pure nofun)
    (.orElse (yields_number.bind fun n small => .pure ?_) (.after fun _ => .pure nofun)))
  rintro _ ⟨⟩
  exact small

theorem yields_assignment {item : Reader Node} (h : Yields item Node.Sound) :
    Yields (assignment item) fun a => a.value.Sound :=
  .after fun _ => .after fun _ => .after fun _ => h.bind fun _ sound => .pure sound

theorem forall_mem_getD {P : α → Prop} {as? : Option (List α)} (h : ∀ as ∈ as?, ∀ a ∈ as, P a) :
    ∀ a ∈ as?.getD [], P a := by
  cases as? with
  | none => nofun
  | some as => exact h as rfl

theorem yields_array {item : Reader Node} (h : Yields item Node.Sound) :
    Yields (array item) fun items => ∀ n ∈ items, n.Sound :=
  .after fun _ => h.seqRight.seqLeft.separated.seqLeft.maybe.bind fun _ each =>
    .after fun _ => .after fun _ => .pure (forall_mem_getD each)

theorem yields_inlineTable {item : Reader Node} (h : Yields item Node.Sound) :
    Yields (inlineTable item) Table.Sound :=
  .after fun _ => (yields_assignment h).seqLeft.separated.maybe.bind fun _ each =>
    .after fun _ => .after fun _ => .liftM fun _ made =>
      (Table.sound_empty _ _).assignAll (forall_mem_getD each) made

theorem yields_value (depth : Nat) : Yields (value depth) Node.Sound := by
  have simple : Yields (value 0) Node.Sound := by
    unfold value
    exact yields_scalar.located.bind fun _ small => .pure (.scalar small)
  induction depth with
  | zero => exact simple
  | succ depth ih =>
    rw [value]
    refine .orElse ?_ (.orElse ?_ simple)
    · exact (yields_array ih).located.bind fun _ each => .pure (.array each)
    · exact (yields_inlineTable ih).located.bind fun _ sound =>
        .pure (.table (.mk sound.distinct sound.entries))

theorem yields_statement : Yields (gap *> statement) fun a => a.value.Sound :=
  (yields_assignment (yields_value _)).seqLeft.seqRight

theorem yields_document : Yields document Document.Sound := by
  have sections : Yields (gap *> tableSection) fun s => ∀ a ∈ s.body, a.value.Sound :=
    .seqRight (.after fun _ => yields_statement.many.bind fun _ body => .pure body)
  exact .after fun _ => yields_statement.many.bind fun _ top => sections.many.bind fun _ below =>
    .after fun _ => .pure ⟨top, below⟩

end readers

/-- A document is read as a table that gives each name once, with whole numbers of 64 bits. -/
theorem Table.parse?_sound {text : List Char} {t : Table} (reads : Table.parse? text = some t) :
    t.Sound := by
  obtain ⟨d, describes, table⟩ := Option.bind_eq_some_iff.1 reads
  obtain ⟨⟨d', rest⟩, reads, rfl⟩ := Option.map_eq_some_iff.1 describes
  exact (yields_document.seqLeft text d' rest reads).table? table

end CameraBroker.Toml
