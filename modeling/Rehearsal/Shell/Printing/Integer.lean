import Rehearsal.Shell.Printing

/-!
# Whole numbers in formats

How an argument is read as a whole number of 64 bits, and how such a number is laid out: digits at
least as many as the precision says, a sign or a mark of the base before them, and blanks or zeros
up to the width.
-/

namespace Rehearsal.Shell.Printing

open Numeral

/-- How the text of a conversion is laid out. -/
structure Layout where
  flags : Text := []
  width : Nat := 0
  precision : Option Nat := none

namespace Layout

/-- Is a flag given? -/
def has (l : Layout) (flag : Char) : Bool := l.flags.contains flag

/-- A text at the width, at the right unless it is wanted at the left. -/
def pad (l : Layout) (t : Text) : Text :=
  let missing := List.replicate (l.width - t.length) ' '
  if l.has '-' then t ++ missing else missing ++ t

/-- A sign or another mark before digits, at the width; there may be zeros between the two. -/
def padDigits (l : Layout) (zeros : Bool) (mark digits : Text) : Text :=
  if zeros && l.has '0' && !l.has '-' then
    mark ++ List.replicate (l.width - mark.length - digits.length) '0' ++ digits
  else l.pad (mark ++ digits)

/-- The mark before a number that has a sign. -/
def sign (l : Layout) (negative : Bool) : Text :=
  if negative then ['-'] else if l.has '+' then ['+'] else if l.has ' ' then [' '] else []

/-- The digits of a number, at least as many as the precision says; zero needs none. -/
def digits (l : Layout) (base n : Nat) : Text :=
  let ds := if n = 0 then [] else Nat.toDigits base n
  List.replicate (l.precision.getD 1 - ds.length) '0' ++ ds

/-- A whole number as a conversion writes it. A conversion without a sign writes a negative number
as what it is modulo `2 ^ 64`. -/
def integer (l : Layout) (kind : Char) (n : Int) : Text :=
  let unsigned := (n % (Nat.pow 2 64 : Int)).toNat
  let isMarked := l.has '#' && unsigned != 0
  let zeros := l.precision.isNone
  match kind with
  | 'u' => l.padDigits zeros [] (l.digits 10 unsigned)
  | 'o' =>
    let ds := l.digits 8 unsigned
    l.padDigits zeros [] (if l.has '#' && ds.head? != some '0' then '0' :: ds else ds)
  | 'x' => l.padDigits zeros (if isMarked then ['0', 'x'] else []) (l.digits 16 unsigned)
  | 'X' =>
    l.padDigits zeros (if isMarked then ['0', 'X'] else [])
      ((l.digits 16 unsigned).map Char.toUpper)
  | _ => l.padDigits zeros (l.sign (n < 0)) (l.digits 10 n.natAbs)

end Layout

/-! ### Reading -/

/-- A number at the front of a text. -/
structure Leading (α : Type) where
  value : α
  /-- What comes after the number; all of the text if there is none. -/
  rest : Text
  isOutOfRange : Bool := false

/-- The whole number at the front of a text. A number that does not fit is the nearest one that
does; one without a sign may be given as a negative one that is as large modulo `2 ^ 64`. -/
def readInteger (isSigned : Bool) (t : Text) : Leading Int :=
  let (negative, body) := splitSign (t.dropWhile isBlank)
  let (base, isDigit, body) := splitBase body
  let ds := body.takeWhile isDigit
  if ds.isEmpty then { value := 0, rest := t }
  else
    let size := ofDigits base ds
    let limit := if !isSigned then Nat.pow 2 64 - 1
      else if negative then Nat.pow 2 63 else Nat.pow 2 63 - 1
    let rest := body.drop ds.length
    if limit < size then
      { value := if isSigned && negative then -limit else limit, rest, isOutOfRange := true }
    else { value := if negative then -size else size, rest }

end Rehearsal.Shell.Printing
