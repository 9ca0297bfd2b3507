import Rehearsal.Shell.Arithmetic

/-!
# Conditions

The command `test` of the shell, also written with brackets. Words are operators or operands; a word
that could be an operator is an operand if nothing else makes sense of the words around it. The
words that have not been read begin with the last one that has, so that a mistake can name it.
-/

namespace Rehearsal.Shell

/-- How files look: the letter of a test and a path, and whether two paths lead to one place. -/
structure FileView where
  has : Char → Text → Bool
  isSame : Text → Text → Bool

namespace Condition

/-- An operator. -/
inductive Operator where
  | unary (letter : Char)
  | binary (name : String)
  | negation
  | both
  | either
  | opening
  | closing
  deriving DecidableEq, Repr

/-- What is wrong with a condition. -/
inductive Error where
  | unexpectedOperator (word : Text)
  | argumentExpected (operator : Text)
  | illegalNumber (word : Text)
  | missingBracket
  | closingExpected
  deriving Repr

def Error.message : Error → String
  | .unexpectedOperator [] => "unexpected operator"
  | .unexpectedOperator w => String.ofList w ++ ": unexpected operator"
  | .argumentExpected op => String.ofList op ++ ": argument expected"
  | .illegalNumber w => Arithmetic.illegalNumber w
  | .missingBracket => "missing ]"
  | .closingExpected => "closing paren expected"

/-- The letters of the operators that have one operand. -/
def unaryLetters : List Char := "rwxefdcbpugkstznhOGLS".toList

def binaryOperators : List String :=
  ["=", "!=", "<", ">", "-eq", "-ne", "-ge", "-gt", "-le", "-lt", "-nt", "-ot", "-ef"]

/-- The operator that a word may be. -/
def operator? (w : Text) : Option Operator :=
  match w with
  | ['!'] => some .negation
  | ['('] => some .opening
  | [')'] => some .closing
  | ['-', 'a'] => some .both
  | ['-', 'o'] => some .either
  | _ =>
    if binaryOperators.contains (String.ofList w) then some (.binary (String.ofList w))
    else match w with
      | ['-', c] => if unaryLetters.contains c then some (.unary c) else none
      | _ => none

def isBinary (w : Text) : Bool :=
  match operator? w with
  | some (.binary _) => true
  | _ => false

/-- The operator that the first of some words is. -/
def leading? : List Text → Option Operator
  | [] => none
  | w :: ws =>
    match operator? w with
    | some (.unary c) =>
      match ws with
      | [] => none
      | next :: rest => if !rest.isEmpty && isBinary next then none else some (.unary c)
    | some .opening => if ws.isEmpty then none else some .opening
    | op => op

/-- The number that a word is, with blanks around it or without. -/
def number (w : Text) : Except Error Int :=
  let t := (w.dropWhile Numeral.isBlank).reverse.dropWhile Numeral.isBlank |>.reverse
  match Text.toInt? t with
  | some n =>
    let low : Int := -(Nat.pow 2 63)
    let high : Int := Nat.pow 2 63
    if n < low || high ≤ n then .error (.illegalNumber w) else .ok n
  | none => .error (.illegalNumber w)

def evalUnary (files : FileView) (c : Char) (w : Text) : Except Error Bool := do
  match c with
  | 'n' => return !w.isEmpty
  | 'z' => return w.isEmpty
  | 't' =>
    discard (number w)
    return false
  | c => return files.has c w

def evalBinary (files : FileView) (op : String) (a b : Text) : Except Error Bool := do
  match op with
  | "=" => return a == b
  | "!=" => return a != b
  | "<" => return a < b
  | ">" => return b < a
  | "-eq" => return (← number a) = (← number b)
  | "-ne" => return (← number a) ≠ (← number b)
  | "-lt" => return (← number a) < (← number b)
  | "-le" => return (← number a) ≤ (← number b)
  | "-gt" => return (← number a) > (← number b)
  | "-ge" => return (← number a) ≥ (← number b)
  | "-ef" => return files.isSame a b
  | _ => return false

mutual

/-- Conditions of which one has to hold. -/
def readEither (files : FileView) : Nat → List Text → Except Error (Bool × List Text)
  | 0, ws => return (false, ws)
  | fuel + 1, ws => do
    let (a, ws) ← readBoth files fuel ws
    if leading? (ws.drop 1) = some .either then
      let (b, ws) ← readEither files fuel (ws.drop 2)
      return (a || b, ws)
    else return (a, ws)

/-- Conditions that have to hold together. -/
def readBoth (files : FileView) : Nat → List Text → Except Error (Bool × List Text)
  | 0, ws => return (false, ws)
  | fuel + 1, ws => do
    let (a, ws) ← readNegation files fuel ws
    if leading? (ws.drop 1) = some .both then
      let (b, ws) ← readBoth files fuel (ws.drop 2)
      return (a && b, ws)
    else return (a, ws)

def readNegation (files : FileView) : Nat → List Text → Except Error (Bool × List Text)
  | 0, ws => return (false, ws)
  | fuel + 1, ws => do
    if leading? ws ≠ some .negation then readPrimary files fuel ws
    else if (ws.drop 1).isEmpty then return (true, ws)
    else
      let (a, ws) ← readNegation files fuel (ws.drop 1)
      return (!a, ws)

def readPrimary (files : FileView) : Nat → List Text → Except Error (Bool × List Text)
  | 0, ws => return (false, ws)
  | fuel + 1, ws => do
    match leading? ws with
    | some .opening =>
      let inner := ws.drop 1
      if leading? inner = some .closing then return (false, inner)
      let (a, ws) ← readEither files fuel inner
      if leading? (ws.drop 1) ≠ some .closing then throw .closingExpected
      return (a, ws.drop 1)
    | some (.unary c) =>
      match ws.drop 1 with
      | [] => throw (.argumentExpected ['-', c])
      | w :: rest => return (← evalUnary files c w, w :: rest)
    | _ => readOperand files ws

/-- An operand, or two with an operator between them. -/
def readOperand (files : FileView) (ws : List Text) : Except Error (Bool × List Text) := do
  match ws with
  | [] => return (false, [])
  | a :: rest =>
    match leading? rest with
    | some (.binary op) =>
      match rest.drop 1 with
      | [] => throw (.argumentExpected op.toList)
      | b :: rest => return (← evalBinary files op a b, b :: rest)
    | _ => return (!a.isEmpty, a :: rest)

end

/-- The value of a condition that is read in whole. -/
def evalWhole (files : FileView) (ws : List Text) : Except Error Bool := do
  let isOperand := ws.length = 3 && (ws[1]?).any isBinary
  let (r, ws) ← if isOperand then readOperand files ws
    else readEither files (4 * ws.length + 4) ws
  match ws with
  | w :: _ :: _ => throw (.unexpectedOperator w)
  | _ => return r

/-- The value of a condition. With few words their number decides what they mean. -/
def eval (files : FileView) : Nat → Bool → List Text → Except Error Bool
  | 0, _, _ => return false
  | fuel + 1, negated, ws => do
    let close (r : Bool) : Bool := negated != r
    if ws.isEmpty then return negated
    if ws.length = 3 && (ws[1]?).any isBinary then return close (← evalWhole files ws)
    if ws.length = 3 || ws.length = 4 then
      if ws.head? = some ['('] && ws.getLast? = some [')'] then
        return close (← evalWhole files (ws.drop 1).dropLast)
      if ws.head? = some ['!'] then return ← eval files fuel true (ws.drop 1)
    return close (← evalWhole files ws)

/-- The value of a condition, or of one in brackets, of which the closing one is the last word. -/
def value (files : FileView) (bracketed : Bool) (ws : List Text) : Except Error Bool :=
  if !bracketed then eval files (ws.length + 1) false ws
  else if ws.getLast? = some [']'] then eval files (ws.length + 1) false ws.dropLast
  else .error .missingBracket

end Condition

end Rehearsal.Shell
