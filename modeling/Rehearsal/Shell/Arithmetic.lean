import Rehearsal.Shell.Memory
import Rehearsal.Shell.Numeral

/-!
# Arithmetic of the shell

Expressions over whole numbers of 64 bits: the usual operators by their precedence, variables, and
assignments to them. A text is cut into tokens, and the tokens are evaluated as they are read, from
left to right; what a conditional or a logical operator does not need is read without being
evaluated.
-/

namespace Rehearsal.Shell.Arithmetic

/-- A token of an expression. -/
inductive Token where
  | number (n : Int)
  | name (t : Text)
  | operator (text : String)
  /-- A character that begins no token. -/
  | unknown
  deriving DecidableEq, Repr

/-! ### Numbers -/

/-- The greatest number. -/
def greatest : Nat := Nat.pow 2 63 - 1

/-- What is said of a text that is no number. -/
def illegalNumber (t : Text) : String := "Illegal number: " ++ String.ofList t

/-- The number that the text of a variable stands for. Nothing but blanks stands for zero. -/
def valueOf (t : Text) : Except String Int :=
  let body := t.dropWhile Numeral.isBlank
  let (negative, digits) := match body with
    | '-' :: rest => (true, rest)
    | '+' :: rest => (false, rest)
    | _ => (false, body)
  if digits.head?.any Char.isDigit then
    let (n, rest) := Numeral.read digits
    let limit := if negative then greatest + 1 else greatest
    if limit < n || !(rest.dropWhile Numeral.isBlank).isEmpty then .error (illegalNumber t)
    else .ok (if negative then -n else n)
  else if body.isEmpty then .ok 0
  else .error (illegalNumber t)

/-! ### Tokens -/

/-- The operators, longer ones before those they begin with. -/
def operators : List String :=
  ["<<=", ">>=", "||", "&&", "==", "!=", "<=", ">=", "<<", ">>", "+=", "-=", "*=", "/=", "%=", "&=",
    "|=", "^=", "=", "<", ">", "|", "^", "&", "+", "-", "*", "/", "%", "!", "~", "?", ":", "(", ")"]

/-- Cut a text into tokens, up to the first character that begins none. -/
def tokens : Nat → Text → List Token
  | 0, _ => []
  | _ + 1, [] => []
  | fuel + 1, c :: rest =>
    let cs := c :: rest
    if c = ' ' || c = '\t' || c = '\n' then tokens fuel rest
    else if c.isDigit then
      let (n, rest) := Numeral.read cs
      .number (min n greatest) :: tokens fuel rest
    else if isNameStart c then
      .name (cs.takeWhile isNameChar) :: tokens fuel (cs.dropWhile isNameChar)
    else match operators.find? (·.toList.isPrefixOf cs) with
      | some op => .operator op :: tokens fuel (cs.drop op.length)
      | none => [.unknown]

/-- The precedence of a binary operator; the lower the closer it binds. -/
def precedence? : Token → Option (String × Nat)
  | .operator op =>
    let table : List (String × Nat) := [
      ("*", 0), ("/", 0), ("%", 0), ("+", 1), ("-", 1), ("<<", 2), (">>", 2), ("<", 3), ("<=", 3),
      (">", 3), (">=", 3), ("==", 4), ("!=", 4), ("&", 5), ("^", 6), ("|", 7)]
    (table.lookup op).map (op, ·)
  | _ => none

/-- The operator that an assignment applies first; none for a plain one. -/
def assignment? : Token → Option (Option String)
  | .operator "=" => some none
  | .operator op =>
    let chars := op.toList
    if chars.getLast? == some '=' && !(["==", "!=", "<=", ">="].contains op) then
      some (some (String.ofList chars.dropLast))
    else none
  | _ => none

/-! ### Evaluating -/

/-- A number of 64 bits with a sign. -/
def wrap (n : Int) : Int := n.bmod (Nat.pow 2 64)

def ofBool (b : Bool) : Int := if b then 1 else 0

/-- The bits of a number, as a natural number. -/
def bits (n : Int) : Nat := (n % (Nat.pow 2 64 : Int)).toNat

/-- What a binary operator makes of two numbers; nothing for a division by zero. -/
def combine? (op : String) (a b : Int) : Option Int :=
  match op with
  | "+" => some (wrap (a + b))
  | "-" => some (wrap (a - b))
  | "*" => some (wrap (a * b))
  | "/" => if b = 0 then none else some (wrap (a.tdiv b))
  | "%" => if b = 0 then none else some (wrap (a.tmod b))
  | "<<" => some (wrap ((bits a <<< (bits b % 64) : Nat) : Int))
  | ">>" => some (a.fdiv (Nat.pow 2 (bits b % 64)))
  | "<" => some (ofBool (a < b))
  | "<=" => some (ofBool (a ≤ b))
  | ">" => some (ofBool (b < a))
  | ">=" => some (ofBool (b ≤ a))
  | "==" => some (ofBool (a = b))
  | "!=" => some (ofBool (a ≠ b))
  | "&" => some (wrap ((bits a &&& bits b : Nat) : Int))
  | "|" => some (wrap ((bits a ||| bits b : Nat) : Int))
  | _ => some (wrap ((bits a ^^^ bits b : Nat) : Int))

/-- An expression that is being evaluated: its text, what is left of it, and what the shell
remembers. -/
structure Reading where
  source : Text
  rest : List Token
  memory : Memory

/-- Something evaluated. -/
abbrev Eval := StateT Reading (Except String)

namespace Eval

/-- Say what is wrong with the expression. -/
def fail {α : Type} (what : String) : Eval α := do
  throw ("arithmetic expression: " ++ what ++ ": \"" ++ String.ofList (← get).source ++ "\"")

def peek : Eval (Option Token) := do return (← get).rest.head?

def pass : Eval Unit := modify fun r => { r with rest := r.rest.drop 1 }

/-- The number of a variable. -/
def lookup (name : Text) : Eval Int := do
  match valueOf (((← get).memory.valueOf? name).getD []) with
  | .ok n => return n
  | .error message => throw message

def assign (name : Text) (n : Int) : Eval Unit := do
  match (← get).memory.assign? name (.ofInt n) with
  | .ok memory => modify ({ · with memory })
  | .error message => throw message

def apply (op : String) (a b : Int) : Eval Int := do
  match combine? op a b with
  | some n => return n
  | none => fail "division by zero"

mutual

/-- An assignment or a conditional. With `skips` nothing is evaluated. -/
def assignment : Nat → Bool → Eval Int
  | 0, _ => fail "expecting primary"
  | fuel + 1, skips => do
    match (← get).rest with
    | .name name :: t :: rest =>
      match assignment? t with
      | some op =>
        modify ({ · with rest })
        let n ← assignment fuel skips
        if skips then return n
        let n ← match op with
          | some op => apply op (← lookup name) n
          | none => pure n
        assign name n
        return n
      | none => conditional fuel skips
    | _ => conditional fuel skips

def conditional : Nat → Bool → Eval Int
  | 0, _ => fail "expecting primary"
  | fuel + 1, skips => do
    let test ← disjunction fuel skips
    if (← peek) != some (.operator "?") then return test
    pass
    let yes ← assignment fuel (skips || test == 0)
    if (← peek) != some (.operator ":") then fail "expecting ':'"
    pass
    let no ← conditional fuel (skips || test != 0)
    return if test ≠ 0 then yes else no

def disjunction : Nat → Bool → Eval Int
  | 0, _ => fail "expecting primary"
  | fuel + 1, skips => do
    let a ← conjunction fuel skips
    if (← peek) != some (.operator "||") then return a
    pass
    let b ← disjunction fuel (skips || a != 0)
    return ofBool (a ≠ 0 || b ≠ 0)

def conjunction : Nat → Bool → Eval Int
  | 0, _ => fail "expecting primary"
  | fuel + 1, skips => do
    let a ← binary fuel skips
    if (← peek) != some (.operator "&&") then return a
    pass
    let b ← conjunction fuel (skips || a == 0)
    return ofBool (a ≠ 0 && b ≠ 0)

/-- Operands joined by binary operators. -/
def binary : Nat → Bool → Eval Int
  | 0, _ => fail "expecting primary"
  | fuel + 1, skips => do
    let a ← primary fuel skips
    match (← peek).bind precedence? with
    | none => return a
    | some (op, p) => operands fuel skips a op p 8

/-- Apply an operator that comes next, and those after it that bind closer than `limit`. -/
def operands : Nat → Bool → Int → String → Nat → Nat → Eval Int
  | 0, _, _, _, _, _ => fail "expecting primary"
  | fuel + 1, skips, a, op, p, limit => do
    pass
    let b ← primary fuel skips
    let b ← match (← peek).bind precedence? with
      | some (op', p') => if p' < p then operands fuel skips b op' p' p else pure b
      | none => pure b
    let a ← if skips then pure b else apply op a b
    match (← peek).bind precedence? with
    | some (op', p') => if p' < limit then operands fuel skips a op' p' limit else return a
    | none => return a

/-- A number, a variable, a sign before one of these, or something in parentheses. -/
def primary : Nat → Bool → Eval Int
  | 0, _ => fail "expecting primary"
  | fuel + 1, skips => do
    match ← peek with
    | some (.number n) =>
      pass
      return n
    | some (.name name) =>
      pass
      if skips then return 0 else lookup name
    | some (.operator "(") =>
      pass
      let n ← assignment fuel skips
      if (← peek) != some (.operator ")") then fail "expecting ')'"
      pass
      return n
    | some (.operator "+") =>
      pass
      primary fuel skips
    | some (.operator "-") =>
      pass
      return wrap (-(← primary fuel skips))
    | some (.operator "!") =>
      pass
      return ofBool ((← primary fuel skips) = 0)
    | some (.operator "~") =>
      pass
      return -(← primary fuel skips) - 1
    | _ => fail "expecting primary"

end

/-- Evaluate a whole expression. -/
def whole : Eval Int := do
  let n ← assignment (8 * (← get).rest.length + 8) false
  if (← peek).isSome then fail "expecting EOF"
  return n

end Eval

/-- The value of a text, and what the shell remembers after it. -/
def evaluate (m : Memory) (source : Text) : Except String (Int × Memory) := do
  let (n, r) ← Eval.whole.run ⟨source, tokens (source.length + 1) source, m⟩
  return (n, r.memory)

end Rehearsal.Shell.Arithmetic
