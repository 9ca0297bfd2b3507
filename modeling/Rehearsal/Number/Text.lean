import Rehearsal.Number.Binary64

/-!
# Numbers as decimal text

Three ways of writing a number. `Binary64.text` writes the fewest digits that read back as the
same double, always positionally, never with an exponent. `fixedPlaces` writes a quotient with a
fixed number of decimals, rounded half to even. `Binary64.textWithPoint` is the first with at
least one decimal.

The fewest digits are found on the decimal grids of one, two, … seventeen significant digits: the
first grid with a point among the numbers that round to the double wins; of two such points the
nearer. Which of two equally near ones is taken is a choice of whoever writes the number.
-/

namespace Rehearsal

/-- The number of decimal digits of a whole number; none for zero. -/
def digitCount (n : Nat) : Nat := if n = 0 then 0 else (Nat.toDigits 10 n).length

/-- The greatest `k` with `10 ^ k ≤ num / den`. -/
def floorLog10 (num den : Nat) : Int :=
  if den ≤ num then (digitCount (num / den) : Int) - 1
  else -(digitCount ((den + num - 1) / num - 1) : Int)

namespace Binary64

/-- The numbers that round to one double, measured in quarters of its last place: the double is
`4 * mantissa` of the unit `up / down`. -/
structure Neighbourhood where
  mantissa : Nat
  up : Nat
  down : Nat
  /-- Quarters from the double down to the border. -/
  below : Nat

/-- A power of two lies twice as near to the double below it as to the one above. -/
def neighbourhood (mantissa : Nat) (exponent : Int) : Neighbourhood :=
  let (up, down) := powerOfTwo (exponent - 2)
  ⟨mantissa, up, down, if mantissa = Nat.pow 2 52 ∧ minExponent < exponent then 1 else 2⟩

/-- Does `num / den` lie between the borders? The borders belong to an even mantissa. -/
def Neighbourhood.holds (h : Neighbourhood) (num den : Nat) : Bool :=
  let x := num * h.down
  let low := (4 * h.mantissa - h.below) * h.up * den
  let high := (4 * h.mantissa + 2) * h.up * den
  if h.mantissa % 2 = 0 then low ≤ x && x ≤ high else low < x && x < high

/-- Which of two equally near points of a decimal grid is taken. -/
inductive Tie where
  | greater
  | even
  deriving DecidableEq, Repr

/-- Is the point below taken, of the points `d` and `d + 1`, for a number that lies `rest / den`
above the first? -/
def Tie.takesLower (tie : Tie) (d rest den : Nat) : Bool :=
  2 * rest < den || (tie == .even && 2 * rest == den && d % 2 == 0)

/-- The point of the grid `10 ^ exponent` that reads back as the double: the one below or the one
above it. -/
def Neighbourhood.pointOn (h : Neighbourhood) (tie : Tie) (exponent : Int) : Option Nat :=
  let (up, down) := powerOfTen exponent
  let num := 4 * h.mantissa * h.up * down
  let den := h.down * up
  let d := num / den
  let low := h.holds (d * up) down
  let high := h.holds ((d + 1) * up) down
  if low && high then (if tie.takesLower d (num % den) den then some d else some (d + 1))
  else if low then some d
  else if high then some (d + 1)
  else none

/-- The first hit on the grids of `first`, `first + 1`, … significant digits. -/
def Neighbourhood.search (h : Neighbourhood) (tie : Tie) (leading : Int) :
    Nat → Nat → Nat × Int
  | 0, count => ((h.pointOn tie (leading + 1 - count)).getD 0, leading + 1 - count)
  | more + 1, count =>
    match h.pointOn tie (leading + 1 - count) with
    | some d => (d, leading + 1 - count)
    | none => h.search tie leading more (count + 1)

/-- The fewest digits that read back as `mantissa * 2 ^ exponent`, and their power of ten. -/
def shortest (tie : Tie) (mantissa : Nat) (exponent : Int) : Nat × Int :=
  let h := neighbourhood mantissa exponent
  h.search tie (floorLog10 (4 * mantissa * h.up) h.down) 16 1

/-- The number `digits * 10 ^ exponent` written positionally. -/
def positional (digits : Nat) (exponent : Int) : List Char :=
  let ds := Nat.toDigits 10 digits
  if 0 ≤ exponent then ds ++ List.replicate exponent.toNat '0'
  else
    let places := (-exponent).toNat
    let padded := List.replicate (places + 1 - ds.length) '0' ++ ds
    let whole := padded.take (padded.length - places)
    let fraction := (padded.drop (padded.length - places)).reverse.dropWhile (· == '0')
    if fraction.isEmpty then whole else whole ++ '.' :: fraction.reverse

/-- The shortest text that reads back as the double, written positionally. -/
def text (x : Binary64) : String :=
  match x.view with
  | .nan => "NaN"
  | .infinite negative => if negative then "-inf" else "inf"
  | .finite negative mantissa exponent =>
    let body :=
      if mantissa = 0 then ['0']
      else
        let (digits, power) := shortest .greater mantissa exponent
        positional digits power
    String.ofList (if negative then '-' :: body else body)

/-- The shortest text with at least one decimal. -/
def textWithPoint (x : Binary64) : String :=
  match x.view with
  | .finite .. => if x.text.contains '.' then x.text else x.text ++ ".0"
  | _ => x.text

end Binary64

/-- The quotient `num / den` with a fixed number of decimals, a tie going to the even last digit. -/
def fixedPlaces (places : Nat) (num den : Nat) : String :=
  let n := roundHalfEven (num * Nat.pow 10 places) den
  let whole := toString (n / Nat.pow 10 places)
  let fraction := Nat.toDigits 10 (n % Nat.pow 10 places)
  whole ++ "." ++ String.ofList (List.replicate (places - fraction.length) '0' ++ fraction)

end Rehearsal
