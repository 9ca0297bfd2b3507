import Rehearsal.Shell.Word

/-!
# Numerals

Digits in the bases that the shell and the programs know, and how a numeral tells its base: `0x`
stands before hexadecimal digits, `0b` before binary ones, and a zero alone before octal ones.
-/

namespace Rehearsal.Shell.Numeral

/-- An octal digit. -/
def isOctal (c : Char) : Bool := '0' ≤ c && c ≤ '7'

/-- A hexadecimal digit. -/
def isHex (c : Char) : Bool := c.isDigit || ('a' ≤ c.toLower && c.toLower ≤ 'f')

/-- A binary digit. -/
def isBinary (c : Char) : Bool := c == '0' || c == '1'

/-- The value of a digit, decimal or hexadecimal. -/
def digitValue (c : Char) : Nat := if c.isDigit then c.toNat - 48 else c.toLower.toNat - 87

/-- The number that digits stand for. -/
def ofDigits (base : Nat) (ds : Text) : Nat := ds.foldl (fun n c => n * base + digitValue c) 0

/-- A blank that may stand before a number. -/
def isBlank (c : Char) : Bool := c == ' ' || ('\t' ≤ c && c ≤ '\r')

/-- A sign at the front of a text, and what comes after it. -/
def splitSign : Text → Bool × Text
  | '-' :: rest => (true, rest)
  | '+' :: rest => (false, rest)
  | t => (false, t)

/-- The base of a numeral, its digits, and its text from the first digit on. -/
def splitBase (t : Text) : Nat × (Char → Bool) × Text :=
  match t with
  | '0' :: c :: d :: rest =>
    if c.toLower = 'x' && isHex d then (16, isHex, d :: rest)
    else if c.toLower = 'b' && isBinary d then (2, isBinary, d :: rest)
    else (8, isOctal, t)
  | '0' :: _ => (8, isOctal, t)
  | _ => (10, Char.isDigit, t)

/-- The numeral at the front of a text as a number, and what comes after it. No digits at all count
as zero. -/
def read (t : Text) : Nat × Text :=
  let (base, isDigit, body) := splitBase t
  (ofDigits base (body.takeWhile isDigit), body.dropWhile isDigit)

end Rehearsal.Shell.Numeral
