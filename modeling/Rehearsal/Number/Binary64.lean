import Rehearsal.Number.Rounding

/-!
# 64-bit binary floating point

Numbers of seconds are held as the 64 bits of the IEEE 754 double format, and every operation on
them is exact arithmetic on whole numbers followed by one rounding. `Binary64.view` reads the bits
as a sign, a whole mantissa and a power of two; `Binary64.ofRatio` is the double nearest to a
quotient, ties going to the even mantissa.
-/

namespace Rehearsal

/-- A double, by its bits. -/
structure Binary64 where
  bits : UInt64
  deriving DecidableEq, Repr, Inhabited

namespace Binary64

/-- What the bits of a double stand for. -/
inductive View where
  | nan
  | infinite (negative : Bool)
  /-- The number `mantissa * 2 ^ exponent`, negated if `negative`. -/
  | finite (negative : Bool) (mantissa : Nat) (exponent : Int)
  deriving DecidableEq, Repr

/-- The exponent of the least positive double. -/
def minExponent : Int := -1074

/-- Read the bits. -/
def view (x : Binary64) : View :=
  let n := x.bits.toNat
  let negative := Nat.pow 2 63 ≤ n
  let biased := n / Nat.pow 2 52 % Nat.pow 2 11
  let fraction := n % Nat.pow 2 52
  if biased = 2047 then
    if fraction = 0 then .infinite negative else .nan
  else if biased = 0 then .finite negative fraction minExponent
  else .finite negative (Nat.pow 2 52 + fraction) (minExponent + (biased - 1 : Nat))

/-- A sign bit over the other 63 bits. -/
def ofMagnitude (negative : Bool) (magnitude : Nat) : Binary64 :=
  ⟨(magnitude + if negative then Nat.pow 2 63 else 0).toUInt64⟩

/-- The magnitude from which on the bits stand for no finite number. -/
def infiniteMagnitude : Nat := 2047 * Nat.pow 2 52

def infinity (negative : Bool) : Binary64 := ofMagnitude negative infiniteMagnitude

/-- The quiet not-a-number. -/
def nan : Binary64 := ofMagnitude false (infiniteMagnitude + Nat.pow 2 51)

/-- The power `2 ^ e` as a quotient of whole numbers. -/
def powerOfTwo (e : Int) : Nat × Nat :=
  if 0 ≤ e then (Nat.pow 2 e.toNat, 1) else (1, Nat.pow 2 (-e).toNat)

/-- The power `10 ^ e` as a quotient of whole numbers. -/
def powerOfTen (e : Int) : Nat × Nat :=
  if 0 ≤ e then (Nat.pow 10 e.toNat, 1) else (1, Nat.pow 10 (-e).toNat)

/-- The power of two by which `num / den` is measured: a quotient of 53 bits, unless that would
be finer than doubles go. -/
def unitExponent (num den : Nat) : Int :=
  let estimate : Int := (Nat.log2 num : Int) - Nat.log2 den - 52
  let (up, down) := powerOfTwo estimate
  let e := if num * down < Nat.pow 2 52 * (den * up) then estimate - 1 else estimate
  max e minExponent

/-- The double nearest to `num / den`, ties to even; too large a quotient gives infinity. -/
def ofRatio (negative : Bool) (num den : Nat) : Binary64 :=
  if num = 0 then ofMagnitude negative 0
  else
    let e := unitExponent num den
    let (up, down) := powerOfTwo e
    let mantissa := roundHalfEven (num * down) (den * up)
    let magnitude :=
      if mantissa < Nat.pow 2 52 then mantissa
      else (e - minExponent).toNat * Nat.pow 2 52 + mantissa
    if infiniteMagnitude ≤ magnitude then infinity negative else ofMagnitude negative magnitude

/-- The double nearest to `digits * 10 ^ exponent`. A magnitude far outside the format is decided
by its number of digits alone, so that no huge power is computed. -/
def ofDecimal (negative : Bool) (digits : Nat) (exponent : Int) : Binary64 :=
  let magnitude : Int := exponent + (Nat.log2 digits / 3 : Nat)
  if digits = 0 then ofMagnitude negative 0
  else if 0 ≤ exponent then
    if 400 < exponent then infinity negative
    else ofRatio negative (digits * Nat.pow 10 exponent.toNat) 1
  else if magnitude < -400 then ofMagnitude negative 0
  else ofRatio negative digits (Nat.pow 10 (-exponent).toNat)

/-- The double nearest to a whole number. -/
def ofInt (n : Int) : Binary64 := ofRatio (n < 0) n.natAbs 1

/-- A non-negative finite double as a quotient, the sign dropped. -/
def ratio (mantissa : Nat) (exponent : Int) : Nat × Nat :=
  let (up, down) := powerOfTwo exponent
  (mantissa * up, down)

/-- The sum of two quotients, rounded once. -/
def sumRatio (a b : Nat × Nat) : Binary64 := ofRatio false (a.1 * b.2 + b.1 * a.2) (a.2 * b.2)

/-- The magnitude of a finite double as a quotient. -/
def magnitude? (x : Binary64) : Option (Nat × Nat) :=
  match x.view with
  | .finite _ mantissa exponent => some (ratio mantissa exponent)
  | _ => none

end Binary64

end Rehearsal
