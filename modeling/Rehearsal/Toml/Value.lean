import Rehearsal.Number.Binary64

/-!
# TOML values and tables

A value is what stands behind an equals sign. A table that a document builds up remembers how it
came to be, since that decides whether it may still be added to: a table is `implicit` until it
has a header of its own, and `dotted` if a dotted key made it.
-/

namespace Rehearsal.Toml

/-- A value. -/
inductive Value where
  | string (s : String)
  | integer (n : Int)
  | decimal (x : Binary64)
  | boolean (b : Bool)
  /-- A date, a time, or both, as written. -/
  | moment (text : String)
  | array (items : List Value)
  | table (fields : List (String × Value))
  /-- A list of tables, each begun by a header in double brackets. -/
  | tables (items : List (List (String × Value)))
  deriving Inhabited

/-- Put a value behind a dotted key into a table that is written inline. Tables that are missing
on the way are made, and tables that are there are added to, whichever way they were written; the
key itself must be new. -/
def addInline (fields : List (String × Value)) (key : String) (value : Value) :
    List String → Option (List (String × Value))
  | [] => if (fields.lookup key).isSome then none else some (fields ++ [(key, value)])
  | part :: path =>
    match fields.lookup part with
    | none => do return fields ++ [(part, .table (← addInline [] key value path))]
    | some (.table inner) => do
      let inner ← addInline inner key value path
      return fields.map fun f => if f.1 == part then (part, .table inner) else f
    | some _ => none

/-- The table that the pairs between two braces describe. -/
def inlineTable? (pairs : List (List String × String × Value)) :
    Option (List (String × Value)) :=
  pairs.foldlM (fun fields (path, key, value) => addInline fields key value path) []

mutual

/-- What a key of a table under construction leads to. -/
inductive Item where
  | value (v : Value)
  | table (t : Table)
  | tables (ts : List Table)

/-- A table under construction. -/
inductive Table where
  | mk (items : List (String × Item)) (implicit dotted : Bool)

end

namespace Table

def items : Table → List (String × Item)
  | .mk items _ _ => items

def implicit : Table → Bool
  | .mk _ implicit _ => implicit

def dotted : Table → Bool
  | .mk _ _ dotted => dotted

/-- An empty table with a header of its own. -/
def empty : Table := .mk [] false false

/-- What a key leads to. -/
def get? (t : Table) (key : String) : Option Item := t.items.lookup key

/-- Let a key lead to something, in its old position or else at the end. -/
def set (t : Table) (key : String) (item : Item) : Table :=
  let items :=
    if t.items.any (·.1 == key) then t.items.map fun e => if e.1 == key then (key, item) else e
    else t.items ++ [(key, item)]
  .mk items t.implicit t.dotted

/-- Remove a key. -/
def erase (t : Table) (key : String) : Table :=
  .mk (t.items.filter (·.1 != key)) t.implicit t.dotted

end Table

mutual

/-- The value that an item comes to. -/
def Item.toValue : Item → Value
  | .value v => v
  | .table (.mk items _ _) => .table (fieldsOf items)
  | .tables ts => .tables (rowsOf ts)

/-- The fields of a table. -/
def fieldsOf : List (String × Item) → List (String × Value)
  | [] => []
  | (key, item) :: rest => (key, item.toValue) :: fieldsOf rest

/-- The rows of a list of tables. -/
def rowsOf : List Table → List (List (String × Value))
  | [] => []
  | .mk items _ _ :: rest => fieldsOf items :: rowsOf rest

end

/-- The fields of a finished table. -/
def Table.fields (t : Table) : List (String × Value) := fieldsOf t.items

end Rehearsal.Toml
