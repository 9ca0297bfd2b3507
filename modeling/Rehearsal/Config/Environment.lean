import Rehearsal.Config.Field

/-!
# Configuration from environment variables

A variable whose name begins with the common beginning gives the field whose key is the rest of
its name, in any mixture of cases; other variables are passed over. The beginning is taken off as
often as it is there. A command is a list of words separated by commas, and an empty value is the
empty list. No field may be given twice.
-/

namespace Rehearsal.Config

/-- Why the variables do not give a configuration. -/
inductive EnvironmentError where
  | missing (field : Field)
  | duplicate (field : Field)
  /-- The value cannot be read; the name is that of the variable after the common beginning. -/
  | unreadable (cause value name : String)
  | unknownPolicy (value : String)
  deriving DecidableEq, Repr

/-- The policies as an error lists them. -/
def knownPolicies : String := "expected `abort-batch` or `fail-case`"

def EnvironmentError.message : EnvironmentError → String
  | .missing field => "missing value for field " ++ field.key
  | .duplicate field => "duplicate field `" ++ field.key ++ "`"
  | .unreadable cause value name =>
    cause ++ " while parsing value '" ++ value ++ "' provided by " ++ name
  | .unknownPolicy value => "unknown variant `" ++ value ++ "`, " ++ knownPolicies

/-- Take a beginning off a list of characters as often as it is there. -/
def stripAll (start : List Char) : Nat → List Char → List Char
  | 0, cs => cs
  | fuel + 1, cs =>
    if start.isPrefixOf cs then stripAll start fuel (cs.drop start.length) else cs

/-- The name of a variable after the common beginning, if it begins so. -/
def variableName? (name : String) : Option String :=
  let start := variableStart.toList
  let cs := name.toList
  if start.isPrefixOf cs then some (String.ofList (stripAll start cs.length cs)) else none

/-- The words of a command. -/
def splitCommand (value : String) : List String :=
  if value.isEmpty then [] else value.splitOn ","

/-- How a variable, its name and its value, is read. -/
def variableReader : ValueReader (String × String) EnvironmentError where
  number v := (readNumber v.2).mapError fun e => .unreadable e.message v.2 v.1
  count v := (readCount v.2).mapError fun e => .unreadable e.message v.2 v.1
  text v := .ok v.2
  path v := .ok (.ofString v.2)
  words v := .ok (splitCommand v.2)
  policy v :=
    match UnterminatedPolicy.ofText? v.2 with
    | some p => .ok p
    | none => .error (.unknownPolicy v.2)

/-- Take one variable into a draft. -/
def takeVariable (d : Draft) (pair : String × String) : Except EnvironmentError Draft :=
  match variableName? pair.1 with
  | none => .ok d
  | some name =>
    match Field.ofKey? name.toLower with
    | none => .ok d
    | some field =>
      if d.has field then .error (.duplicate field)
      else d.put variableReader field (name, pair.2)

/-- Read a configuration from variables. -/
def ofVariables (pairs : List (String × String)) : Except EnvironmentError Config := do
  let draft ← pairs.foldlM takeVariable {}
  draft.complete.mapError .missing

end Rehearsal.Config
