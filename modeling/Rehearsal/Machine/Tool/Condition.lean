import Rehearsal.Shell.Condition

/-!
# The program `test`

The program reads conditions by the number of its words, up to four of them; more are an expression
of negations, conjunctions and disjunctions. It knows a few operators that the shell does not, and
it compares numbers of any size.
-/

namespace Rehearsal.Machine.Check

open Shell (Text FileView)

/-- What is wrong with a condition. -/
inductive Error where
  | missingBracket
  | missingArgument (after : Text)
  | extraArgument (word : Text)
  | unaryExpected (word : Text)
  | binaryExpected (word : Text)
  | closingExpected
  | closingExpectedAt (word : Text)
  | invalidInteger (word : Text)
  deriving Repr

def Error.message : Error → String
  | .missingBracket => "missing ']'"
  | .missingArgument w => "missing argument after " ++ quoted w
  | .extraArgument w => "extra argument " ++ quoted w
  | .unaryExpected w => quoted w ++ ": unary operator expected"
  | .binaryExpected w => quoted w ++ ": binary operator expected"
  | .closingExpected => "')' expected"
  | .closingExpectedAt w => "')' expected, found " ++ String.ofList w
  | .invalidInteger w => "invalid integer " ++ quoted w
where
  quoted (w : Text) : String := "'" ++ String.ofList w ++ "'"

def unaryLetters : List Char := "bcdefgGhkLnNOprsStuwxz".toList

def binaryOperators : List String :=
  ["=", "==", "!=", "-eq", "-ne", "-ge", "-gt", "-le", "-lt", "-nt", "-ot", "-ef"]

def isBinary (w : Text) : Bool := binaryOperators.contains (String.ofList w)

/-- Does a word look like an operator with one operand? -/
def looksUnary : Text → Bool
  | ['-', _] => true
  | _ => false

/-- A number of any size, with blanks around it or without. -/
def number (w : Text) : Except Error Int :=
  let isBlank := Shell.Numeral.isBlank
  let t := ((w.dropWhile isBlank).reverse.dropWhile isBlank).reverse
  match Text.toInt? t with
  | some n => .ok n
  | none => .error (.invalidInteger w)

/-- A condition that is being read: its words, how many of them have been read, and their value. -/
structure Reading where
  words : List Text
  position : Nat := 0

/-- A part of the reading of a condition. -/
abbrev Reader := StateT Reading (Except Error)

def left : Reader (List Text) := return (← get).words.drop (← get).position

def pass (n : Nat) : Reader Unit := modify fun r => { r with position := r.position + n }

/-- Pass a word after which another one is needed. -/
def passNeeded : Reader Unit := do
  pass 1
  if (← left).isEmpty then throw (.missingArgument ((← get).words.getLast?.getD []))

def unary (files : FileView) : Reader Bool := do
  match ← left with
  | ['-', c] :: _ =>
    if !unaryLetters.contains c then throw (.unaryExpected ['-', c])
    passNeeded
    let w := (← left).headD []
    pass 1
    match c with
    | 'n' => return !w.isEmpty
    | 'z' => return w.isEmpty
    | 't' =>
      discard (number w)
      return false
    | c => return files.has c w
  | w :: _ => throw (.unaryExpected w)
  | [] => return false

/-- Two operands with an operator between them. The first one may be a length, and so may the
second. -/
def binary (files : FileView) (hasLength : Bool) : Reader Bool := do
  if hasLength then pass 1
  let a := (← left).headD []
  let op := String.ofList ((← left)[1]?.getD [])
  pass 2
  let secondLength := (← left).head? == some ['-', 'l'] && (← left).length ≥ 2
  if secondLength then pass 1
  let b := (← left).headD []
  pass 1
  let measured (isLength : Bool) (w : Text) : Except Error Int :=
    if isLength then .ok w.length else number w
  let compare (f : Int → Int → Bool) : Reader Bool := do
    return f (← measured hasLength a) (← measured secondLength b)
  match op with
  | "=" | "==" => return a == b
  | "!=" => return a != b
  | "-eq" => compare fun x y => x = y
  | "-ne" => compare fun x y => x ≠ y
  | "-lt" => compare fun x y => x < y
  | "-le" => compare fun x y => x ≤ y
  | "-gt" => compare fun x y => x > y
  | "-ge" => compare fun x y => x ≥ y
  | "-ef" => return files.isSame a b
  | "-nt" => return files.has 'e' a && !files.has 'e' b
  | "-ot" => return !files.has 'e' a && files.has 'e' b
  | _ => return false

mutual

def either (files : FileView) : Nat → Reader Bool
  | 0 => return false
  | fuel + 1 => do
    let a ← both files fuel
    if (← left).head? != some ['-', 'o'] then return a
    pass 1
    let b ← either files fuel
    return a || b

def both (files : FileView) : Nat → Reader Bool
  | 0 => return false
  | fuel + 1 => do
    let a ← term files fuel
    if (← left).head? != some ['-', 'a'] then return a
    pass 1
    let b ← both files fuel
    return a && b

def term (files : FileView) : Nat → Reader Bool
  | 0 => return false
  | fuel + 1 => do
    match ← left with
    | [] => throw (.missingArgument ((← get).words.getLast?.getD []))
    | ['!'] :: _ =>
      passNeeded
      return !(← term files fuel)
    | ['('] :: _ =>
      passNeeded
      let inner := (← left).takeWhile (· != [')'])
      let value ←
        if inner.length < 4 && inner.length < (← left).length then byCount files fuel inner.length
        else either files fuel
      match ← left with
      | [')'] :: _ =>
        pass 1
        return value
      | w :: _ => throw (.closingExpectedAt w)
      | [] => throw .closingExpected
    | ['-', 'l'] :: _ :: op :: _ :: _ =>
      if isBinary op then binary files true else unary files
    | a :: op :: _ :: _ =>
      if isBinary op then binary files false
      else if looksUnary a then unary files
      else
        pass 1
        return !a.isEmpty
    | a :: _ =>
      if looksUnary a && 1 < (← left).length then unary files
      else
        pass 1
        return !a.isEmpty

/-- A condition of so many words. -/
def byCount (files : FileView) : Nat → Nat → Reader Bool
  | 0, _ => return false
  | fuel + 1, count => do
    let ws := (← left).take count
    match ws with
    | [] => either files fuel
    | [w] =>
      pass 1
      return !w.isEmpty
    | [a, b] =>
      if a = ['!'] then
        pass 2
        return b.isEmpty
      else if looksUnary a then unary files
      else throw (.missingArgument b)
    | [a, op, b] =>
      if isBinary op then binary files false
      else if a = ['!'] then
        passNeeded
        return !(← byCount files fuel 2)
      else if a = ['('] && b = [')'] then
        pass 3
        return !op.isEmpty
      else if op = ['-', 'a'] || op = ['-', 'o'] then either files fuel
      else throw (.binaryExpected op)
    | [['!'], _, _, _] =>
      passNeeded
      return !(← byCount files fuel 3)
    | [['('], _, _, [')']] =>
      pass 1
      let value ← byCount files fuel 2
      pass 1
      return value
    | _ => either files fuel

end

/-- The value of a whole condition. -/
def whole (files : FileView) : Reader Bool := do
  let ws := (← get).words
  if ws.isEmpty then return false
  let value ← byCount files (8 * ws.length + 8) ws.length
  match ← left with
  | [] => return value
  | w :: _ => throw (.extraArgument w)

/-- The value of a condition, or of one in brackets. -/
def value (files : FileView) (bracketed : Bool) (ws : List Text) : Except Error Bool :=
  let run (ws : List Text) : Except Error Bool := (·.1) <$> (whole files).run { words := ws }
  if !bracketed then run ws
  else if ws.getLast? = some [']'] then run ws.dropLast
  else .error .missingBracket

end Rehearsal.Machine.Check
