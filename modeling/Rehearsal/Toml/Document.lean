import Rehearsal.Toml.Value

/-!
# Putting a TOML document together

A document is a list of statements: headers, which say where the following pairs go, and pairs of
a dotted key and a value. `Document.ofStatements?` builds the table that they describe. It refuses
a document that defines anything twice: a key, a table with two headers, a table that was written
inline, or a table that has a header and is then extended by a dotted key.
-/

namespace Rehearsal.Toml

/-- A line of a document that says something. -/
inductive Statement where
  | pair (path : List String) (key : String) (value : Value)
  /-- A header in single brackets. -/
  | header (path : List String) (key : String)
  /-- A header in double brackets. -/
  | rowHeader (path : List String) (key : String)

namespace Table

/-- Change the table that a path leads to, making the tables that are missing on the way. A list
of tables stands for its last one. With `dotted`, the path stands in front of a key, and may only
go through tables that have no header. -/
def descend (dotted : Bool) (change : Table → Option Table) : List String → Table → Option Table
  | [], t => change t
  | key :: path, t =>
    match t.get? key with
    | none => do
      let inner ← descend dotted change path (.mk [] true dotted)
      return t.set key (.table inner)
    | some (.value _) => none
    | some (.table inner) =>
      if dotted && !inner.implicit then none
      else (descend dotted change path inner).map fun inner => t.set key (.table inner)
    | some (.tables rows) =>
      match rows.reverse with
      | [] => none
      | last :: before =>
        (descend dotted change path last).map fun last =>
          t.set key (.tables (last :: before).reverse)

/-- Add a key with its value; the key must be new, and a dotted path must lead to a table that
was made by one. -/
def addPair (t : Table) (path : List String) (key : String) (value : Value) : Option Table :=
  let insert (inner : Table) : Option Table :=
    if inner.dotted == path.isEmpty || (inner.get? key).isSome then none
    else some (inner.set key (.value value))
  descend true insert path t

end Table

/-- A document under construction: the tables that are finished, and the one that pairs go to. -/
structure Document where
  root : Table := .empty
  current : Table := .empty
  /-- Where the current table belongs: a path, a key, and whether it is a row. -/
  place : Option (List String × String × Bool) := none

namespace Document

/-- Put the current table where it belongs. -/
def finish (d : Document) : Option Table :=
  match d.place with
  | none => some d.current
  | some (path, key, isRow) =>
    let attach (parent : Table) : Option Table :=
      match isRow, parent.get? key with
      | true, none => some (parent.set key (.tables [d.current]))
      | true, some (.tables rows) => some (parent.set key (.tables (rows ++ [d.current])))
      | true, some _ => none
      | false, none => some (parent.set key (.table d.current))
      | false, some (.table t) =>
        if t.implicit then some (parent.set key (.table d.current)) else none
      | false, some _ => none
    Table.descend false attach path d.root

/-- Begin a table with a header of its own. A table that only headers below it have made so far
is taken up again. -/
def beginTable (root : Table) (path : List String) (key : String) : Option Document := do
  let root ← Table.descend false some path root
  let current ← match (lookup path root).bind (·.get? key) with
    | none => some Table.empty
    | some (.table t) =>
      if t.implicit && !t.dotted then some (.mk t.items false false) else none
    | some _ => none
  let root ← Table.descend false (fun parent => some (parent.erase key)) path root
  return { root, current, place := some (path, key, false) }
where
  /-- The table at the end of a path, if it is there. -/
  lookup : List String → Table → Option Table
    | [], t => some t
    | key :: path, t =>
      match t.get? key with
      | some (.table inner) => lookup path inner
      | some (.tables rows) => rows.getLast?.bind (lookup path)
      | _ => none

/-- Begin a row of a list of tables. -/
def beginRow (root : Table) (path : List String) (key : String) : Option Document := do
  let check (parent : Table) : Option Table :=
    match parent.get? key with
    | none | some (.tables _) => some parent
    | some _ => none
  let root ← Table.descend false check path root
  return { root, current := .empty, place := some (path, key, true) }

/-- Take one statement. -/
def take (d : Document) : Statement → Option Document
  | .pair path key value => do return { d with current := ← d.current.addPair path key value }
  | .header path key => do beginTable (← d.finish) path key
  | .rowHeader path key => do beginRow (← d.finish) path key

/-- The table that a list of statements describes. -/
def ofStatements? (statements : List Statement) : Option Table := do
  (← statements.foldlM take {}).finish

end Document

end Rehearsal.Toml
