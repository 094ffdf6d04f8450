import CameraBroker.Toml.Node

/-! A document as a list of statements, and the table that it describes. A table is written
out once: a header may take up a table that other headers implied, and a key with dots may
add only to tables that came about without a header of their own. -/
namespace CameraBroker.Toml

/-- A value under a key, which may lie in tables below. -/
structure Assignment where
  path : List Key
  key : Key
  value : Node

/-- A header and the assignments under it. The header names a table or one more element of
an array of tables. -/
structure Section where
  isElement : Bool
  span : Span
  path : List Key
  key : Key
  body : List Assignment

structure Document where
  top : List Assignment
  sections : List Section

namespace Table

/-- Whether a path may go on through a table. -/
def admits (dotted : Bool) (t : Table) : Bool :=
  match t.origin with
  | .closed => false
  | .header => !dotted
  | .implied => true
  | .dotted => true

/-- Changes the table at the end of a path. Tables that are missing on the way are added,
and of an array of tables the last is meant. -/
def follow (dotted : Bool) (f : Table → Option Table) : List Key → Table → Option Table
  | [], t => f t
  | k :: path, t =>
    match t.find? k.name with
    | none => do
      let child ← follow dotted f path (.empty (if dotted then .dotted else .implied) none)
      pure (t.insert k (.table child))
    | some (.table child) =>
      if child.admits dotted then do
        pure (t.insert k (.table (← follow dotted f path child)))
      else none
    | some (.tables ts) => do
      let last ← ts.getLast?
      pure (t.insert k (.tables (ts.dropLast ++ [← follow dotted f path last])))
    | some _ => none

/-- A name may be given once. -/
def add (k : Key) (n : Node) (t : Table) : Option Table :=
  if (t.find? k.name).isSome then none else some (t.insert k n)

/-- Only a key with dots adds to a table that such keys made, and no other key does. -/
def assign (t : Table) (a : Assignment) : Option Table :=
  t.follow true (fun t =>
    if t.origin = .dotted ↔ a.path ≠ [] then t.add a.key a.value else none) a.path

def assignAll (body : List Assignment) (t : Table) : Option Table := body.foldlM assign t

/-- The table of a section: what was implied before and the assignments, from the header to
the last value. -/
def ofSection (s : Section) (entries : List (Key × Node)) : Option Table :=
  let last := s.body.getLast?.bind fun a => a.value.span?
  let stop := (last.getD s.span).stop
  assignAll s.body ⟨.header, some ⟨s.span.start, stop⟩, entries⟩

/-- Puts a section into the table that its header's path leads to. -/
def place (s : Section) (t : Table) : Option Table :=
  match t.find? s.key.name, s.isElement with
  | none, false => do t.add s.key (.table (← ofSection s []))
  | some (.table old), false => do
    if old.origin = .implied then
      (t.erase s.key.name).add s.key (.table (← ofSection s old.entries))
    else none
  | none, true => do t.add s.key (.tables [← ofSection s []])
  | some (.tables ts), true => do
    pure (t.insert s.key (.tables (ts ++ [← ofSection s []])))
  | _, _ => none

end Table

/-- The table that a document describes, unless its statements are at odds. -/
def Document.table? (d : Document) : Option Table := do
  let root ← Table.assignAll d.top (.empty .header none)
  d.sections.foldlM (fun root s => root.follow false (·.place s) s.path) root

end CameraBroker.Toml
