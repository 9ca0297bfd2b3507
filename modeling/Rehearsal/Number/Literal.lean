import Rehearsal.Number.Binary64

/-!
# Reading numbers

A count is a string of decimal digits, with at most a plus in front, below `2 ^ 64`. A number of
seconds is a decimal with an optional sign, point and power of ten, or one of the words for
infinity and not-a-number in any mixture of cases. Nothing may stand around either.
-/

namespace Rehearsal

/-- Why a text is not a count. -/
inductive CountError where
  | empty
  | invalidDigit
  | tooLarge
  deriving DecidableEq, Repr

def CountError.message : CountError → String
  | .empty => "cannot parse integer from empty string"
  | .invalidDigit => "invalid digit found in string"
  | .tooLarge => "number too large to fit in target type"

/-- The value of a decimal digit. -/
def digit? (c : Char) : Option Nat := if c.isDigit then some (c.toNat - '0'.toNat) else none

/-- Read digits after those that gave `value`. The first thing that is wrong is reported: a
character that is no digit before the overflow that it would take part in. -/
def readDigits (value : Nat) : List Char → Except CountError Nat
  | [] => .ok value
  | c :: rest =>
    match digit? c with
    | none => .error .invalidDigit
    | some d =>
      if Nat.pow 2 64 ≤ value * 10 + d then .error .tooLarge
      else readDigits (value * 10 + d) rest

/-- Read a count. -/
def readCount (s : String) : Except CountError Nat :=
  match s.toList with
  | [] => .error .empty
  | ['+'] => .error .invalidDigit
  | '+' :: rest => readDigits 0 rest
  | cs => readDigits 0 cs

/-- Why a text is not a number. -/
inductive NumberError where
  | empty
  | invalid
  deriving DecidableEq, Repr

def NumberError.message : NumberError → String
  | .empty => "cannot parse float from empty string"
  | .invalid => "invalid float literal"

/-- The value of a string of digits. -/
def digitsValue (cs : List Char) : Nat :=
  cs.foldl (fun n c => n * 10 + (c.toNat - '0'.toNat)) 0

/-- The power of ten after the digits: empty, or `e`, an optional sign and at least one digit. -/
def readExponent : List Char → Option Int
  | [] => some 0
  | c :: rest =>
    if c = 'e' || c = 'E' then
      let (negative, digits) := match rest with
        | '-' :: ds => (true, ds)
        | '+' :: ds => (false, ds)
        | ds => (false, ds)
      if digits.isEmpty || !digits.all Char.isDigit then none
      else
        let n : Int := digitsValue digits
        some (if negative then -n else n)
    else none

/-- A decimal without its sign: digits before or after an optional point, then the exponent. -/
def readDecimal (negative : Bool) (cs : List Char) : Option Binary64 :=
  let whole := cs.takeWhile Char.isDigit
  let afterWhole := cs.dropWhile Char.isDigit
  let (fraction, tail) := match afterWhole with
    | '.' :: rest => (rest.takeWhile Char.isDigit, rest.dropWhile Char.isDigit)
    | rest => ([], rest)
  if whole.isEmpty && fraction.isEmpty then none
  else (readExponent tail).map fun e =>
    .ofDecimal negative (digitsValue (whole ++ fraction)) (e - fraction.length)

/-- Read a number of seconds. -/
def readNumber (s : String) : Except NumberError Binary64 :=
  let cs := s.toList
  if cs.isEmpty then .error .empty
  else
    let (negative, body) := match cs with
      | '-' :: rest => (true, rest)
      | '+' :: rest => (false, rest)
      | rest => (false, rest)
    let word := String.ofList (body.map Char.toLower)
    if word = "inf" || word = "infinity" then .ok (.infinity negative)
    else if word = "nan" then .ok .nan
    else match readDecimal negative body with
      | some x => .ok x
      | none => .error .invalid

end Rehearsal
