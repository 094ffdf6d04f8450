import CameraBroker.Config.Written
import CameraBroker.Proofs.WrittenTables

/-! The text that settings are written as is read as the same settings. There is such a text
unless one of the three times needs all 64 bits. -/
namespace CameraBroker.Config
open Toml

/-- The times that a document can give. The number of attempts is never too large. -/
structure Fits (c : Config) : Prop where
  retryInterval : c.retryInterval.toNat ≤ 2 ^ 63 - 1
  openLatency : c.openLatency.toNat ≤ 2 ^ 63 - 1
  closeLatency : c.closeLatency.toNat ≤ 2 ^ 63 - 1

theorem isSome_text?_iff (c : Config) : c.text?.isSome ↔ c.Fits := by
  have limit : ∀ n, n < Decimal.wordLimit 63 ↔ n ≤ 2 ^ 63 - 1 := fun n => by
    rw [show Decimal.wordLimit 63 = 2 ^ 63 from rfl]
    omega
  have attempts : c.maxAttempts.toNat ≤ 2 ^ 63 - 1 := by
    have := c.maxAttempts.toNat_lt
    omega
  have fits : (writeDocument? c.written).isSome ↔ c.maxAttempts.toNat ≤ 2 ^ 63 - 1 ∧
      c.retryInterval.toNat ≤ 2 ^ 63 - 1 ∧ c.openLatency.toNat ≤ 2 ^ 63 - 1 ∧
      c.closeLatency.toNat ≤ 2 ^ 63 - 1 := by
    rw [isSome_writeDocument]
    simp only [written, List.forall_mem_cons, limit]
    simp [and_assoc]
  rw [text?, Option.isSome_map, fits]
  exact ⟨fun h => ⟨h.2.1, h.2.2.1, h.2.2.2⟩, fun h => ⟨attempts, h.1, h.2, h.3⟩⟩

section names

theorem bare_written (c : Config) : ∀ x ∈ c.written, BareSection x := by
  simp only [written, BareSection, List.forall_mem_cons]
  decide +kernel

theorem distinct_written (c : Config) : (c.written.map (·.1)).Nodup := by
  simp [written]

theorem distinct_below (c : Config) : ∀ x ∈ c.written, (x.2.map (·.1)).Nodup := by
  simp [written]

end names

section reading

theorem readString_shows {s : String} {n : Node} (h : ShowsString s n) (place : Span) :
    readString place n = .ok s := by
  obtain ⟨span, rfl⟩ := h
  rfl

theorem readStrings_shows {items : List String} {nodes : List Node} (span place : Span)
    (h : List.Forall₂ ShowsString items nodes) :
    readStrings place (.array span nodes) = .ok items := by
  simp only [readStrings, Node.items?]
  induction h with
  | nil => rfl
  | cons first _ ih =>
    rw [List.mapM_cons, readString_shows first, ih]
    rfl

theorem readUnsigned_shows {width n : Nat} (small : n < Decimal.wordLimit width)
    (span place : Span) :
    readUnsigned width place (.scalar span (.number (.integer n))) = .ok n := by
  simp [readUnsigned, small]

end reading

/-- The entries of a section's table. -/
abbrev ShowsEntries (entries : List (String × Entry)) (nodes : List (Key × Node)) : Prop :=
  List.Forall₂ (fun e f => f.1.name = e.1 ∧ Shows e.2 f.2) entries nodes

theorem ShowsEntries.cons {name : String} {e : Entry} {entries : List (String × Entry)}
    {nodes : List (Key × Node)} (h : ShowsEntries ((name, e) :: entries) nodes) :
    ∃ span n rest, nodes = (⟨name, span⟩, n) :: rest ∧ Shows e n ∧ ShowsEntries entries rest := by
  obtain ⟨⟨⟨_, span⟩, n⟩, rest, ⟨rfl, shows⟩, others, rfl⟩ := List.forall₂_cons_left_iff.mp h
  exact ⟨span, n, rest, rfl, shows, others⟩

theorem take_arbiter {s : String} {nodes : List (Key × Node)}
    (h : ShowsEntries [("log_level", .string s)] nodes) (d : Config) :
    arbiterFields.takeEntries nodes d = .ok { d with logLevel := s } := by
  obtain ⟨_, _, _, rfl, ⟨shows⟩, none_left⟩ := h.cons
  obtain rfl := List.forall₂_nil_left_iff.mp none_left
  simp [Schema.takeEntries, arbiterFields, readString_shows shows]

theorem take_opener {attempts : UInt32} {interval : UInt64} {nodes : List (Key × Node)}
    (h : ShowsEntries [("max_attempts", .number attempts.toNat),
      ("retry_interval_ms", .number interval.toNat)] nodes) (d : Config) :
    openerFields.takeEntries nodes d =
      .ok { d with maxAttempts := attempts, retryInterval := interval } := by
  obtain ⟨_, _, _, rfl, ⟨⟩, others⟩ := h.cons
  obtain ⟨_, _, _, rfl, ⟨⟩, none_left⟩ := others.cons
  obtain rfl := List.forall₂_nil_left_iff.mp none_left
  have small : attempts.toNat < Decimal.wordLimit 32 := attempts.toNat_lt
  have fits : interval.toNat < Decimal.wordLimit 64 := interval.toNat_lt
  simp [Schema.takeEntries, openerFields, readUnsigned_shows small, readUnsigned_shows fits]
  rfl

theorem take_simulator {cameras : List String} {opening closing : UInt64}
    {nodes : List (Key × Node)}
    (h : ShowsEntries [("cameras", .strings cameras), ("open_latency_ms", .number opening.toNat),
      ("close_latency_ms", .number closing.toNat)] nodes) (d : Config) :
    simulatorFields.takeEntries nodes d =
      .ok { d with cameras := cameras, openLatency := opening, closeLatency := closing } := by
  obtain ⟨_, _, _, rfl, shows, others⟩ := h.cons
  obtain ⟨_, _, _, rfl, ⟨⟩, last⟩ := others.cons
  obtain ⟨_, _, _, rfl, ⟨⟩, none_left⟩ := last.cons
  obtain rfl := List.forall₂_nil_left_iff.mp none_left
  have opens : opening.toNat < Decimal.wordLimit 64 := opening.toNat_lt
  have closes : closing.toNat < Decimal.wordLimit 64 := closing.toNat_lt
  cases shows with
  | strings shown =>
    simp [Schema.takeEntries, simulatorFields, readStrings_shows _ _ shown,
      readUnsigned_shows opens, readUnsigned_shows closes]
    rfl

theorem showsTables_cons {name : String} {entries : List (String × Entry)}
    {xs : List (String × List (String × Entry))} {nodes : List (Key × Node)}
    (h : List.Forall₂ ShowsTable ((name, entries) :: xs) nodes) :
    ∃ span t rest, nodes = (⟨name, span⟩, .table t) :: rest ∧ ShowsEntries entries t.entries ∧
      List.Forall₂ ShowsTable xs rest := by
  obtain ⟨⟨⟨_, span⟩, _⟩, rest, ⟨rfl, t, rfl, shows⟩, others, rfl⟩ :=
    List.forall₂_cons_left_iff.mp h
  exact ⟨span, t, rest, rfl, shows, others⟩

/-- Each section gives its fields, and together they are all fields. -/
theorem ofTable_written {c : Config} {t : Table} (h : List.Forall₂ ShowsTable c.written t.entries) :
    ofTable t = .ok c := by
  obtain ⟨_, _, _, entries, arbiter, others⟩ := showsTables_cons h
  obtain ⟨_, _, _, rfl, opener, last⟩ := showsTables_cons others
  obtain ⟨_, _, _, rfl, simulator, none_left⟩ := showsTables_cons last
  obtain rfl := List.forall₂_nil_left_iff.mp none_left
  rw [ofTable, entries, Schema.takeEntries]
  simp [sections, Schema.take, take_arbiter arbiter, take_opener opener, take_simulator simulator]
  rfl

/-- Settings are read back from the text that they are written as. -/
theorem parse_text {c : Config} {text : String} (h : c.text? = some text) : parse text = .ok c := by
  obtain ⟨cs, written, rfl⟩ := Option.map_eq_some_iff.mp h
  obtain ⟨t, parsed, shows⟩ :=
    parse?_written (bare_written c) (distinct_written c) (distinct_below c) written
  rw [parse, String.toList_ofList, parsed]
  simp only [ofTable_written shows]
  rfl

end CameraBroker.Config
