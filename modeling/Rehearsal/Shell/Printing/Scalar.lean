import Rehearsal.Number.Text
import Rehearsal.Shell.Printing.Integer

/-!
# Numbers with a fraction in formats

The shell holds such a number as a double, and programs hold it with more bits; a `ScalarFormat`
says how many. A number is rounded once when it is read and once when it is written, from its exact
value both times, and a tie goes to the even neighbour.
-/

namespace Rehearsal.Shell.Printing

open Numeral

/-- A binary format: the bits of a mantissa, the exponent of the finest unit, and the power of two
from which on numbers are infinite. -/
structure ScalarFormat where
  bits : Nat
  minExponent : Int
  limit : Nat
  /-- The hexadecimal digits after the point that a mantissa has. -/
  hexPlaces : Nat

namespace ScalarFormat

def double : ScalarFormat := ⟨53, -1074, 1024, 13⟩

def extended : ScalarFormat := ⟨64, -16445, 16384, 15⟩

/-- The format in which a printer holds numbers. -/
def of : Dialect → ScalarFormat
  | .builtin => double
  | .program => extended

end ScalarFormat

/-- A number with a fraction. -/
inductive Scalar where
  | nan (negative : Bool)
  | infinite (negative : Bool)
  /-- The number `mantissa * 2 ^ exponent`, negated if `negative`. -/
  | finite (negative : Bool) (mantissa : Nat) (exponent : Int)
  deriving DecidableEq, Repr

namespace Scalar

open Binary64 (powerOfTwo powerOfTen)

/-- The number nearest to `num / den` in a format, and whether it is out of the format's range: too
large, or so small that bits are lost. -/
def ofRatio (f : ScalarFormat) (negative : Bool) (num den : Nat) : Scalar × Bool :=
  if num = 0 then (.finite negative 0 0, false)
  else
    let estimate : Int := (Nat.log2 num : Int) - Nat.log2 den - (f.bits - 1 : Nat)
    let (up, down) := powerOfTwo estimate
    let full := Nat.pow 2 (f.bits - 1)
    let fine := if num * down < full * (den * up) then estimate - 1 else estimate
    let e := max fine f.minExponent
    let (up, down) := powerOfTwo e
    let m := roundHalfEven (num * down) (den * up)
    let (m, e) := if m = 2 * full then (full, e + 1) else (m, e)
    if (f.limit : Int) < e + f.bits then (.infinite negative, true)
    else (.finite negative m e, m < full && m * (den * up) ≠ num * down)

/-- A whole number. -/
def ofNat (f : ScalarFormat) (n : Nat) : Scalar := (ofRatio f false n 1).1

/-- The number nearest to `digits * 10 ^ exponent`. -/
def ofDecimal (f : ScalarFormat) (negative : Bool) (digits : Nat) (exponent : Int) :
    Scalar × Bool :=
  let size := exponent + (digitCount digits : Nat)
  if digits = 0 then (.finite negative 0 0, false)
  else if 5000 < size then (.infinite negative, true)
  else if size < -5000 then (.finite negative 0 0, true)
  else
    let (up, down) := powerOfTen exponent
    ofRatio f negative (digits * up) down

/-- The number nearest to `digits * 2 ^ exponent`. -/
def ofBinary (f : ScalarFormat) (negative : Bool) (digits : Nat) (exponent : Int) :
    Scalar × Bool :=
  let size := exponent + (Nat.log2 digits : Nat)
  if digits = 0 then (.finite negative 0 0, false)
  else if 17000 < size then (.infinite negative, true)
  else if size < -17000 then (.finite negative 0 0, true)
  else
    let (up, down) := powerOfTwo exponent
    ofRatio f negative (digits * up) down

/-! ### Reading -/

/-- The exponent after a letter, and what comes after it; nothing if there are no digits. -/
def readPower (letter : Char) (t : Text) : Int × Text :=
  match t with
  | c :: rest =>
    if c.toLower = letter then
      let (negative, body) := splitSign rest
      let ds := body.takeWhile Char.isDigit
      if ds.isEmpty then (0, t)
      else
        let n : Int := ofDigits 10 ds
        (if negative then -n else n, body.drop ds.length)
    else (0, t)
  | [] => (0, t)

/-- Digits with a point or without one: the digits, how many of them come after the point, and what
comes after them; `none` if there are no digits. -/
def readPlaces (isDigit : Char → Bool) (t : Text) : Option (Text × Nat × Text) :=
  let whole := t.takeWhile isDigit
  let (fraction, rest) := match t.dropWhile isDigit with
    | '.' :: rest => (rest.takeWhile isDigit, rest.dropWhile isDigit)
    | rest => ([], rest)
  if whole.isEmpty && fraction.isEmpty then none
  else some (whole ++ fraction, fraction.length, rest)

/-- What comes after a word at the front of a text, in any mixture of cases. -/
def afterWord? (word : String) (t : Text) : Option Text :=
  let n := word.length
  if (t.take n).map Char.toLower = word.toList then some (t.drop n) else none

/-- What may follow the word for a number that is none: letters in brackets. -/
def afterLabel (t : Text) : Text :=
  match t with
  | '(' :: rest =>
    match rest.dropWhile isNameChar with
    | ')' :: rest => rest
    | _ => t
  | _ => t

/-- The number at the front of a text: a decimal, a hexadecimal number, or a word. -/
def read (f : ScalarFormat) (t : Text) : Leading Scalar :=
  let (negative, body) := splitSign (t.dropWhile isBlank)
  let leading (v : Scalar × Bool) (rest : Text) : Leading Scalar :=
    { value := v.1, rest, isOutOfRange := v.2 }
  let decimal : Leading Scalar :=
    match readPlaces Char.isDigit body with
    | some (ds, places, rest) =>
      let (power, rest) := readPower 'e' rest
      leading (ofDecimal f negative (ofDigits 10 ds) (power - places)) rest
    | none => leading (.finite false 0 0, false) t
  if let some rest := afterWord? "infinity" body then leading (.infinite negative, false) rest
  else if let some rest := afterWord? "inf" body then leading (.infinite negative, false) rest
  else if let some rest := afterWord? "nan" body then
    leading (.nan negative, false) (afterLabel rest)
  else if let some rest := afterWord? "0x" body then
    match readPlaces isHex rest with
    | some (ds, places, rest) =>
      let (power, rest) := readPower 'p' rest
      leading (ofBinary f negative (ofDigits 16 ds) (power - 4 * places)) rest
    | none => decimal
  else decimal

/-! ### Writing -/

/-- Digits of which the last ones come after a point. The point is left out if none do, unless it is
wanted. -/
def withPoint (point : Bool) (places : Nat) (ds : Text) : Text :=
  let ds := List.replicate (places + 1 - ds.length) '0' ++ ds
  let whole := ds.take (ds.length - places)
  let fraction := ds.drop (ds.length - places)
  if fraction.isEmpty && !point then whole else whole ++ '.' :: fraction

/-- A number with a fixed number of places after the point. -/
def fixed (point : Bool) (places num den : Nat) : Text :=
  withPoint point places (Nat.toDigits 10 (roundHalfEven (num * Nat.pow 10 places) den))

/-- An exponent with its sign and at least so many digits. -/
def exponentText (letter : Char) (width : Nat) (e : Int) : Text :=
  let ds := Nat.toDigits 10 e.natAbs
  letter :: (if e < 0 then '-' else '+') :: List.replicate (width - ds.length) '0' ++ ds

/-- The digits of a number, one of them before the point, and its power of ten. -/
def normalDigits (places num den : Nat) : Nat × Int :=
  if num = 0 then (0, 0)
  else
    let power := floorLog10 num den
    let (up, down) := powerOfTen (places - power)
    let n := roundHalfEven (num * up) (den * down)
    if n = Nat.pow 10 (places + 1) then (Nat.pow 10 places, power + 1) else (n, power)

/-- A number with one digit before the point and a power of ten. -/
def scientific (point : Bool) (places num den : Nat) : Text :=
  let (n, power) := normalDigits places num den
  withPoint point places (Nat.toDigits 10 n) ++ exponentText 'e' 2 power

/-- A fraction without the zeros at its end, and without the point if nothing follows it, unless the
point is wanted. -/
def dropZeros (point : Bool) (t : Text) : Text :=
  if t.contains '.' then
    let kept := t.reverse.dropWhile (· == '0')
    (if kept.head? = some '.' && !point then kept.drop 1 else kept).reverse
  else t

/-- A number in the shorter of the two ways, with so many digits that count. -/
def general (point : Bool) (precision num den : Nat) : Text :=
  let count := max precision 1
  let (n, power) := normalDigits (count - 1) num den
  let trim (t : Text) : Text := if point then t else dropZeros false t
  if -4 ≤ power && power < count then
    let places := (count - 1 - power : Int).toNat
    trim (withPoint point places (Nat.toDigits 10 n))
  else
    trim (withPoint point (count - 1) (Nat.toDigits 10 n)) ++ exponentText 'e' 2 power

/-- A number in hexadecimal digits and a power of two, exact unless the places are limited. -/
def hexadecimal (f : ScalarFormat) (point : Bool) (precision : Option Nat) (m : Nat) (e : Int) :
    Text :=
  let power : Int := if m = 0 then 0 else e + 4 * f.hexPlaces
  let places := precision.getD f.hexPlaces
  let n :=
    if places < f.hexPlaces then roundHalfEven m (Nat.pow 16 (f.hexPlaces - places))
    else m * Nat.pow 16 (places - f.hexPlaces)
  let (n, power) := if n < Nat.pow 16 (places + 1) then (n, power) else (n / 16, power + 4)
  let text := withPoint point places (Nat.toDigits 16 n)
  (if precision.isNone then dropZeros point text else text) ++ exponentText 'p' 1 power

/-- The text of a number without its sign. -/
def magnitude (f : ScalarFormat) (l : Layout) (kind : Char) : Scalar → Text
  | .nan _ => "nan".toList
  | .infinite _ => "inf".toList
  | .finite _ m e =>
    let (num, den) := Binary64.ratio m e
    let places := l.precision.getD 6
    match kind with
    | 'f' => fixed (l.has '#') places num den
    | 'e' => scientific (l.has '#') places num den
    | 'g' => general (l.has '#') places num den
    | _ => hexadecimal f (l.has '#') l.precision m e

def isNegative : Scalar → Bool
  | .nan negative | .infinite negative | .finite negative _ _ => negative

def isFinite : Scalar → Bool
  | .finite .. => true
  | _ => false

/-- A number as a conversion writes it; a capital letter makes all letters capital. -/
def text (f : ScalarFormat) (l : Layout) (kind : Char) (x : Scalar) : Text :=
  let body := x.magnitude f l kind.toLower
  let (mark, body) :=
    if kind.toLower = 'a' && x.isFinite then ("0x".toList, body) else ([], body)
  let t := l.padDigits x.isFinite (l.sign x.isNegative ++ mark) body
  if kind.isUpper then t.map Char.toUpper else t

end Scalar

end Rehearsal.Shell.Printing
