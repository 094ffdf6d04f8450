import CameraBroker.Toml.Node
import CameraBroker.Toml.Report

/-! How parts of a document are read into values of a type: what each kind of field accepts,
and how the fields of a section are found in a table or in an array. -/
namespace CameraBroker.Toml

/-- A value stands in its own place, or else where its key does. -/
def placeOf (k : Key) (n : Node) : Span := n.span?.getD k.span

def readString (place : Span) (n : Node) : Except Fault String :=
  match n with
  | .scalar _ (.string s) => .ok s
  | n => .error ⟨place, .kind n.found "a string"⟩

/-- A whole number that fits `width` bits without a sign. -/
def readUnsigned (width : Nat) (place : Span) (n : Node) : Except Fault Nat :=
  let expected := "u" ++ toString width
  match n with
  | .scalar _ (.number (.integer i)) =>
    if 0 ≤ i ∧ i < Decimal.wordLimit width then .ok i.toNat else .error ⟨place, .range (.integer i) expected⟩
  | n => .error ⟨place, .kind n.found expected⟩

def readStrings (place : Span) (n : Node) : Except Fault (List String) :=
  match n.items? with
  | some items => items.mapM fun item => readString (item.span?.getD place) item
  | none => .error ⟨place, .kind n.found "a sequence"⟩

/-- A named part of a value of type `σ`, and how a node changes the value there. -/
structure Field (σ : Type) where
  name : String
  take : Span → Node → σ → Except Fault σ

/-- The fields of a table, in the order in which an array gives them. -/
abbrev Schema (σ : Type) := List (Field σ)

namespace Schema
variable {σ : Type}

/-- Takes over the entries one by one. An entry that is no field is passed over. -/
def takeEntries (schema : Schema σ) (entries : List (Key × Node)) (s : σ) : Except Fault σ :=
  entries.foldlM (fun s e =>
    match schema.find? fun f => f.name = e.1.name with
    | some f => f.take (placeOf e.1 e.2) e.2 s
    | none => .ok s) s

/-- Takes over the items of an array, the first for the first field and so on. -/
def takeItems (schema : Schema σ) (place : Span) (items : List Node) (s : σ) : Except Fault σ :=
  (schema.zip items).foldlM (fun s x => x.1.take (x.2.span?.getD place) x.2 s) s

/-- A section is a table or an array. A moment has parts, but none that is a field. -/
def take (schema : Schema σ) (name : String) (place : Span) (n : Node) (s : σ) : Except Fault σ :=
  match n with
  | .table t => schema.takeEntries t.entries s
  | .scalar _ .moment => .ok s
  | n => match n.items? with
    | some items => schema.takeItems place items s
    | none => .error ⟨place, .kind n.found ("struct " ++ name)⟩

end Schema

end CameraBroker.Toml
