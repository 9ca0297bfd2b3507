import Rehearsal.Config.Environment
import Rehearsal.Toml.Reader
import Rehearsal.Text.Quoted
import Rehearsal.Number.Text

/-!
# Configuration from TOML

The top-level keys of a document are visited in the order in which they stand, and the first value
that does not fit its field is reported. A number of seconds may be written as an integer. A
policy is its text, or a table with the text as its only key and an empty table behind it.
-/

namespace Rehearsal.Config

/-- Why a document does not give a configuration. -/
inductive TomlError where
  /-- The text is no TOML. -/
  | unparsable
  | missing (field : Field)
  /-- The value is of another type than the expected one. -/
  | invalidType (found expected : String)
  | negativeCount (n : Int)
  | unknownPolicy (value : String)
  /-- The value does not have the shape of a policy. -/
  | policyShape (message : String)
  deriving DecidableEq, Repr

/-- What is said of a document. -/
def TomlError.message : TomlError → String
  | .unparsable => "TOML parse error"
  | .missing field => "missing field `" ++ field.key ++ "`"
  | .invalidType found expected => "invalid type: " ++ found ++ ", expected " ++ expected
  | .negativeCount n => "invalid value: integer `" ++ toString n ++ "`, expected usize"
  | .unknownPolicy value => "unknown variant `" ++ value ++ "`, " ++ knownPolicies
  | .policyShape message => message

open Toml (Value)

/-- What a value is called when it is of the wrong type. -/
def describeValue : Value → String
  | .string s => "string " ++ quoteString s
  | .integer n => "integer `" ++ toString n ++ "`"
  | .decimal x => "floating point `" ++ x.textWithPoint ++ "`"
  | .boolean b => "boolean `" ++ toString b ++ "`"
  | .moment _ | .table _ => "map"
  | .array _ | .tables _ => "sequence"

/-- The name of a value's type. -/
def typeName : Value → String
  | .string _ => "string"
  | .integer _ => "integer"
  | .decimal _ => "float"
  | .boolean _ => "boolean"
  | .moment _ => "datetime"
  | .table _ => "table"
  | .array _ => "array"
  | .tables _ => "array of tables"

def wrongType {α : Type} (v : Value) (expected : String) : Except TomlError α :=
  .error (.invalidType (describeValue v) expected)

def tomlNumber : Value → Except TomlError Binary64
  | .decimal x => .ok x
  | .integer n => .ok (.ofInt n)
  | v => wrongType v "f64"

def tomlCount : Value → Except TomlError Nat
  | .integer n => if n < 0 then .error (.negativeCount n) else .ok n.toNat
  | v => wrongType v "usize"

def tomlText (expected : String) : Value → Except TomlError String
  | .string s => .ok s
  | v => wrongType v expected

def tomlWords : Value → Except TomlError (List String)
  | .array items => items.mapM (tomlText "a string")
  | .tables rows => rows.mapM fun row => tomlText "a string" (.table row)
  | v => wrongType v "a sequence"

/-- The policy with this text. -/
def policyNamed (s : String) : Except TomlError UnterminatedPolicy :=
  match UnterminatedPolicy.ofText? s with
  | some p => .ok p
  | none => .error (.unknownPolicy s)

/-- What stands behind the text of a policy must be an empty table. -/
def checkEmpty : Value → Except TomlError Unit
  | .table fields => if fields.isEmpty then .ok () else .error (.policyShape "expected empty table")
  | v => .error (.policyShape ("expected table, found " ++ typeName v))

def tomlPolicy : Value → Except TomlError UnterminatedPolicy
  | .string s => policyNamed s
  | .table [] => .error (.policyShape "wanted exactly 1 element, found 0 elements")
  | .table [(key, v)] => do
    let p ← policyNamed key
    checkEmpty v
    return p
  | .table _ => .error (.policyShape "wanted exactly 1 element, more than 1 element")
  | _ => .error (.policyShape "wanted string or table")

/-- How a TOML value is read. -/
def tomlReader : ValueReader Value TomlError where
  number := tomlNumber
  count := tomlCount
  text := tomlText "a string"
  path v := Path.ofString <$> tomlText "path string" v
  words := tomlWords
  policy := tomlPolicy

/-- Take one top-level key into a draft. -/
def takeField (d : Draft) (pair : String × Value) : Except TomlError Draft :=
  match Field.ofKey? pair.1 with
  | none => .ok d
  | some field => d.put tomlReader field pair.2

/-- Read a configuration from a text. -/
def ofToml (s : String) : Except TomlError Config := do
  match Toml.parse? s with
  | none => .error .unparsable
  | some fields =>
    let draft ← fields.foldlM takeField {}
    draft.complete.mapError .missing

end Rehearsal.Config
