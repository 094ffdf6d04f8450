import CameraBroker.Proofs.WrittenDocument

/-! The table that a written document describes has the sections of the document as its
entries and their lines as the entries below, if no name is given twice. -/
namespace CameraBroker.Toml

section tables
variable {k : Key} {n : Node} {t : Table}

def Table.names (t : Table) : List String := t.entries.map (·.1.name)

theorem Table.find?_eq_none {name : String} (new : name ∉ t.names) : t.find? name = none := by
  simpa [find?, names] using new

theorem Table.add_of_new (new : k.name ∉ t.names) :
    t.add k n = some { t with entries := t.entries ++ [(k, n)] } := by
  simp [add, insert, find?_eq_none new]

theorem Table.assign_of_new {a : Assignment} (direct : a.path = []) (undotted : t.origin ≠ .dotted)
    (new : a.key.name ∉ t.names) :
    t.assign a = some { t with entries := t.entries ++ [(a.key, a.value)] } := by
  simp [assign, follow, direct, undotted, add_of_new new]

/-- Assignments under names of their own become entries in their order. -/
theorem Table.assignAll_of_new {body : List Assignment} (direct : ∀ a ∈ body, a.path = [])
    (undotted : t.origin ≠ .dotted) (distinct : (t.names ++ body.map (·.key.name)).Nodup) :
    assignAll body t =
      some { t with entries := t.entries ++ body.map fun a => (a.key, a.value) } := by
  induction body generalizing t with
  | nil =>
    cases t
    simp [assignAll]
  | cons a body ih =>
    have new : a.key.name ∉ t.names := fun mem =>
      (List.nodup_append.mp distinct).2.2 _ mem a.key.name (by simp) rfl
    have first := assign_of_new (direct a (by simp)) undotted new
    have others := ih (t := { t with entries := t.entries ++ [(a.key, a.value)] })
      (fun b mem => direct b (by simp [mem])) undotted (by simpa [names] using distinct)
    rw [assignAll] at others ⊢
    rw [List.foldlM_cons, first]
    simpa using others

end tables

/-- A section on its own: its table is named without dots and gives each name once. -/
structure Plain (s : Section) : Prop where
  isTable : s.isElement = false
  path : s.path = []
  direct : ∀ a ∈ s.body, a.path = []
  distinct : (s.body.map (·.key.name)).Nodup

/-- The entry that a section becomes. -/
structure Holds (s : Section) (e : Key × Node) : Prop where
  key : e.1 = s.key
  node : ∃ origin span, e.2 = .table ⟨origin, span, s.body.map fun a => (a.key, a.value)⟩

theorem Plain.place {s : Section} {t : Table} (h : Plain s) (new : s.key.name ∉ t.names) :
    ∃ n, Holds s (s.key, n) ∧
      t.follow false (·.place s) s.path = some { t with entries := t.entries ++ [(s.key, n)] } := by
  let stop := ((s.body.getLast?.bind fun a => a.value.span?).getD s.span).stop
  let placed : Table := ⟨.header, some ⟨s.span.start, stop⟩, s.body.map fun a => (a.key, a.value)⟩
  have filled : Table.ofSection s [] = some placed :=
    Table.assignAll_of_new (t := ⟨.header, some ⟨s.span.start, stop⟩, []⟩) h.direct (by simp)
      (by simpa [Table.names] using h.distinct)
  refine ⟨.table placed, ⟨rfl, _, _, rfl⟩, ?_⟩
  simp [Table.follow, Table.place, h.path, h.isTable, Table.find?_eq_none new, filled,
    Table.add_of_new new]

/-- Sections under names of their own become entries in their order. -/
theorem place_of_plain {sections : List Section} (plain : ∀ s ∈ sections, Plain s) (t : Table)
    (distinct : (t.names ++ sections.map (·.key.name)).Nodup) :
    ∃ added, List.Forall₂ Holds sections added ∧
      sections.foldlM (fun root s => root.follow false (·.place s) s.path) t =
        some { t with entries := t.entries ++ added } := by
  induction sections generalizing t with
  | nil =>
    cases t
    exact ⟨[], .nil, by simp⟩
  | cons s sections ih =>
    have new : s.key.name ∉ t.names := fun mem =>
      (List.nodup_append.mp distinct).2.2 _ mem s.key.name (by simp) rfl
    obtain ⟨n, holds, placed⟩ := (plain s (by simp)).place new
    obtain ⟨added, others, rest⟩ := ih (fun s mem => plain s (by simp [mem]))
      { t with entries := t.entries ++ [(s.key, n)] } (by simpa [Table.names] using distinct)
    refine ⟨(s.key, n) :: added, .cons holds others, ?_⟩
    rw [List.foldlM_cons, placed]
    simpa using rest

section forall₂
variable {α β γ : Type} {R : α → β → Prop} {xs : List α} {ys : List β}

theorem map_eq_of_forall₂ {f : α → γ} {g : β → γ} (same : ∀ x y, R x y → g y = f x)
    (h : List.Forall₂ R xs ys) : ys.map g = xs.map f := by
  induction h with
  | nil => rfl
  | cons first _ ih => simp [same _ _ first, ih]

theorem forall_mem_of_forall₂ {p : β → Prop} (each : ∀ x ∈ xs, ∀ y, R x y → p y)
    (h : List.Forall₂ R xs ys) : ∀ y ∈ ys, p y := by
  induction h with
  | nil => simp
  | cons first _ ih =>
    have others := ih fun x mem => each x (by simp [mem])
    simpa using ⟨each _ (by simp) _ first, others⟩

theorem forall₂_trans {S : β → γ → Prop} {T : α → γ → Prop} {zs : List γ}
    (h : List.Forall₂ R xs ys) (k : List.Forall₂ S ys zs)
    (both : ∀ x y z, R x y → S y z → T x z) : List.Forall₂ T xs zs := by
  induction h generalizing zs with
  | nil =>
    cases k
    exact .nil
  | cons first _ ih =>
    cases k with
    | cons second others => exact .cons (both _ _ _ first second) (ih others)

end forall₂

structure ShowsTable (x : String × List (String × Entry)) (e : Key × Node) : Prop where
  name : e.1.name = x.1
  table : ∃ t, e.2 = .table t ∧
    List.Forall₂ (fun e f => f.1.name = e.1 ∧ Shows e.2 f.2) x.2 t.entries

theorem ShowsSection.plain {x : String × List (String × Entry)} {s : Section}
    (h : ShowsSection x s) (distinct : (x.2.map (·.1)).Nodup) : Plain s where
  isTable := h.isTable
  path := h.path
  direct := forall_mem_of_forall₂ (fun _ _ _ shows => shows.path) h.body
  distinct := by
    rw [map_eq_of_forall₂ (fun e a shows => shows.name) h.body]
    exact distinct

theorem ShowsSection.shows {x : String × List (String × Entry)} {s : Section} {e : Key × Node}
    (h : ShowsSection x s) (holds : Holds s e) : ShowsTable x e := by
  obtain ⟨origin, span, node⟩ := holds.node
  refine ⟨by rw [holds.key, h.name], _, node, ?_⟩
  exact List.forall₂_map_right_iff.mpr (h.body.imp fun _ _ shows => ⟨shows.name, shows.value⟩)

/-- The table of a written document has all that was written, in the same order. -/
theorem parse?_written {xs : List (String × List (String × Entry))} {text : List Char}
    (bare : ∀ x ∈ xs, BareSection x) (distinct : (xs.map (·.1)).Nodup)
    (distinctBelow : ∀ x ∈ xs, (x.2.map (·.1)).Nodup) (written : writeDocument? xs = some text) :
    ∃ t, Table.parse? text = some t ∧ List.Forall₂ ShowsTable xs t.entries := by
  obtain ⟨sections, shows, reads⟩ := document_written bare written
  have plain : ∀ s ∈ sections, Plain s :=
    forall_mem_of_forall₂ (fun x mem s shows => shows.plain (distinctBelow x mem)) shows
  obtain ⟨added, holds, placed⟩ := place_of_plain plain (.empty .header none) (by
    rw [map_eq_of_forall₂ (fun x s shows => ShowsSection.name shows) shows]
    simpa [Table.names, Table.empty] using distinct)
  have listed : List.Forall₂ ShowsTable xs added :=
    forall₂_trans shows holds fun _ _ _ => ShowsSection.shows
  refine ⟨⟨.header, none, added⟩, ?_, listed⟩
  rw [Table.parse?, reads]
  simpa [Document.table?, Table.assignAll, Table.empty] using placed

end CameraBroker.Toml
