import Rehearsal.Number.Text
import Rehearsal.Text.Quoted

/-!
# JSON documents

A document value and its indented text: two spaces for each level, one item or field to a line,
nothing inside empty brackets. Fields keep their order.

In a string, the quote, the backslash and the control characters below the space are escaped,
five of them by a letter; everything else stands as it is.
-/

namespace Rehearsal

/-- A JSON value. -/
inductive Json where
  | null
  | bool (b : Bool)
  | integer (n : Int)
  | decimal (x : Binary64)
  | string (s : String)
  | array (items : List Json)
  | object (fields : List (String × Json))
  deriving Inhabited

namespace Json

/-! ### Numbers

A decimal has the fewest digits that read back. The point stands among them or next to them as
long as the number has at most sixteen digits before it, or at most five places between it and the
first digit; otherwise one digit stands before it and the power of ten follows an `e`, with its
sign. Of two equally near texts the one with the even last digit is taken. A whole number that 64
bits do not hold is written as the nearest double. -/

/-- Digits and a power of ten, in whichever of the two forms applies. -/
def scientific (digits : Nat) (power : Int) : List Char :=
  let ds := Nat.toDigits 10 digits
  let length : Int := ds.length
  let point := length + power
  if 0 ≤ power && point ≤ 16 then ds ++ List.replicate power.toNat '0' ++ ['.', '0']
  else if 0 < point && point ≤ 16 then ds.take point.toNat ++ '.' :: ds.drop point.toNat
  else if -5 < point && point ≤ 0 then ['0', '.'] ++ List.replicate (-point).toNat '0' ++ ds
  else
    let exponent := 'e' :: (if 1 ≤ point then ['+'] else []) ++ (toString (point - 1)).toList
    match ds with
    | [d] => d :: exponent
    | d :: rest => d :: '.' :: rest ++ exponent
    | [] => exponent

/-- Move the zeros at the end of some digits into the power of ten. -/
def dropZeros : Nat → Nat → Int → Nat × Int
  | 0, digits, power => (digits, power)
  | fuel + 1, digits, power =>
    if digits % 10 = 0 && digits != 0 then dropZeros fuel (digits / 10) (power + 1)
    else (digits, power)

/-- The text of a decimal; a number that JSON cannot hold is `null`. -/
def decimalText (x : Binary64) : List Char :=
  match x.view with
  | .finite negative mantissa exponent =>
    let body :=
      if mantissa = 0 then ['0', '.', '0']
      else
        let (digits, power) := Binary64.shortest .even mantissa exponent
        let (digits, power) := dropZeros 20 digits power
        scientific digits power
    if negative then '-' :: body else body
  | _ => "null".toList

/-- A whole number, as an integer if it is one of 64 bits, with or without a sign. -/
def ofInt (n : Int) : Json :=
  if -(Nat.pow 2 63 : Int) ≤ n && n < (Nat.pow 2 64 : Int) then .integer n
  else .decimal (.ofInt n)

/-! ### Text -/

/-- Four hexadecimal digits. -/
def hex4 (n : Nat) : List Char :=
  let ds := Nat.toDigits 16 n
  List.replicate (4 - ds.length) '0' ++ ds

/-- One character of a string. -/
def escape (c : Char) : List Char :=
  if c = '"' then ['\\', '"']
  else if c = '\\' then ['\\', '\\']
  else if c = '\n' then ['\\', 'n']
  else if c = '\r' then ['\\', 'r']
  else if c = '\t' then ['\\', 't']
  else if c = '\x08' then ['\\', 'b']
  else if c = '\x0c' then ['\\', 'f']
  else if c.toNat < 0x20 then ['\\', 'u'] ++ hex4 c.toNat
  else [c]

/-- A string in quotes. -/
def stringText (s : String) : List Char := '"' :: s.toList.flatMap escape ++ ['"']

/-- A line break and the indentation of a level. -/
def breakLine (level : Nat) : List Char := '\n' :: List.replicate (2 * level) ' '

/-- Pieces on lines of their own between two brackets. -/
def bracketed (opening closing : Char) (level : Nat) (pieces : List (List Char)) : List Char :=
  if pieces.isEmpty then [opening, closing]
  else
    let inner := breakLine (level + 1)
    let separated := (pieces.map (inner ++ ·)).intersperse [',']
    opening :: separated.flatten ++ breakLine level ++ [closing]

mutual

/-- The indented text of a value inside a level. -/
def prettyAt (level : Nat) : Json → List Char
  | .null => "null".toList
  | .bool b => (if b then "true" else "false").toList
  | .integer n => (toString n).toList
  | .decimal x => decimalText x
  | .string s => stringText s
  | .array items => bracketed '[' ']' level (prettyItems (level + 1) items)
  | .object fields => bracketed '\x7b' '\x7d' level (prettyFields (level + 1) fields)

def prettyItems (level : Nat) : List Json → List (List Char)
  | [] => []
  | item :: items => prettyAt level item :: prettyItems level items

def prettyFields (level : Nat) : List (String × Json) → List (List Char)
  | [] => []
  | (key, value) :: fields =>
    (stringText key ++ [':', ' '] ++ prettyAt level value) :: prettyFields level fields

end

/-- The indented text of a document. -/
def pretty (j : Json) : String := String.ofList (j.prettyAt 0)

end Json

end Rehearsal
