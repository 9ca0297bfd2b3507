import Rehearsal.Number.Text

/-!
# Durations

A duration is a whole number of nanoseconds. A number of seconds becomes the nearest one, ties
going to even; negative numbers, numbers of `2 ^ 64` seconds or more, infinities and not-a-number
are refused.
-/

namespace Rehearsal

/-- A span of time, in nanoseconds. -/
structure Duration where
  nanoseconds : Nat
  deriving DecidableEq, Repr, Inhabited

namespace Duration

def nanosPerSecond : Nat := 1_000_000_000

def nanosPerMilli : Nat := 1_000_000

/-- The duration of `secs` seconds and `nanos` nanoseconds. -/
def ofParts (secs nanos : Nat) : Duration := ⟨secs * nanosPerSecond + nanos⟩

def ofMillis (ms : Nat) : Duration := ⟨ms * nanosPerMilli⟩

/-- The whole seconds. -/
def wholeSeconds (d : Duration) : Nat := d.nanoseconds / nanosPerSecond

/-- The nanoseconds past the whole seconds. -/
def subsecondNanos (d : Duration) : Nat := d.nanoseconds % nanosPerSecond

/-- The whole milliseconds. -/
def wholeMillis (d : Duration) : Nat := d.nanoseconds / nanosPerMilli

/-- Why a number of seconds is not a duration. -/
inductive Error where
  | negative
  | tooLarge
  deriving DecidableEq, Repr

def Error.message : Error → String
  | .negative => "cannot convert float seconds to Duration: value is negative"
  | .tooLarge => "cannot convert float seconds to Duration: value is either too big or NaN"

/-- The duration nearest to a number of seconds. Negative zero is zero. -/
def ofSeconds (x : Binary64) : Except Error Duration :=
  match x.view with
  | .nan => .error .tooLarge
  | .infinite negative => .error (if negative then .negative else .tooLarge)
  | .finite negative mantissa exponent =>
    if negative && mantissa != 0 then .error .negative
    else
      let (num, den) := Binary64.ratio mantissa exponent
      if Nat.pow 2 64 * den ≤ num then .error .tooLarge
      else .ok ⟨roundHalfEven (num * nanosPerSecond) den⟩

/-- The number of seconds as a double: the whole seconds and the fraction are each rounded, and
so is their sum. -/
def seconds (d : Duration) : Binary64 :=
  let whole := (Binary64.ofRatio false d.wholeSeconds 1).magnitude?
  let fraction := (Binary64.ofRatio false d.subsecondNanos nanosPerSecond).magnitude?
  Binary64.sumRatio (whole.getD (0, 1)) (fraction.getD (0, 1))

/-- The seconds with three decimals. -/
def secondsText (d : Duration) : String :=
  let (num, den) := d.seconds.magnitude?.getD (0, 1)
  fixedPlaces 3 num den

end Duration

end Rehearsal
