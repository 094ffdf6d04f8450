import CameraBroker.Toml.Number

/-! Documents as trees. A table keeps its entries in the order in which they came and knows
how it came about, which decides who may add to it later. -/
namespace CameraBroker.Toml

inductive Scalar where
  | string (text : String)
  | number (value : Number)
  | boolean (value : Bool)
  | moment
deriving DecidableEq, Repr

/-- A moment has parts, so it is found as a map. -/
def Scalar.found : Scalar → Found
  | .string s => .string s
  | .number n => n.found
  | .boolean b => .boolean b
  | .moment => .map

/-- How a table came about: written out between braces, under a header of its own, by a
header that goes on below it, or by a key with dots. -/
inductive Origin where
  | closed
  | header
  | implied
  | dotted
deriving DecidableEq, Repr

structure Key where
  name : String
  span : Span
deriving DecidableEq, Repr

mutual

inductive Node where
  | scalar (span : Span) (value : Scalar)
  | array (span : Span) (items : List Node)
  | table (table : Table)
  | tables (elements : List Table)

/-- Tables that only other keys imply have no place of their own in the text. -/
structure Table where
  origin : Origin
  span : Option Span
  entries : List (Key × Node)

end

namespace Table

def empty (origin : Origin) (span : Option Span) : Table := ⟨origin, span, []⟩

def find? (name : String) (t : Table) : Option Node :=
  (t.entries.find? fun e => e.1.name = name).map (·.2)

/-- The node takes the place of the one under the same name, or comes last. -/
def insert (k : Key) (n : Node) (t : Table) : Table :=
  if (t.find? k.name).isSome then
    { t with entries := t.entries.map fun e => if e.1.name = k.name then (e.1, n) else e }
  else { t with entries := t.entries ++ [(k, n)] }

def erase (name : String) (t : Table) : Table :=
  { t with entries := t.entries.filter fun e => e.1.name ≠ name }

end Table

namespace Node

/-- Where a node stands. Tables in an array stretch from the first to the last. -/
def span? : Node → Option Span
  | .scalar span _ => some span
  | .array span _ => some span
  | .table t => t.span
  | .tables ts => do
    let first ← (← ts.head?).span
    let last ← (← ts.getLast?).span
    pure ⟨first.start, last.stop⟩

/-- The items of an array of either kind. -/
def items? : Node → Option (List Node)
  | .array _ items => some items
  | .tables ts => some (ts.map .table)
  | _ => none

def found : Node → Found
  | .scalar _ v => v.found
  | .array _ _ => .sequence
  | .table _ => .map
  | .tables _ => .sequence

end Node

end CameraBroker.Toml
