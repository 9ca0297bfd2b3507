import Mathlib.Algebra.Order.Field.Power
import Mathlib.Algebra.Order.Ring.Rat
import Mathlib.Tactic.FieldSimp
import Mathlib.Tactic.NormNum
import Mathlib.Tactic.Positivity
import Mathlib.Tactic.Ring
import Rehearsal.Number.Binary64

/-!
# What the bits of a double stand for

The format has a sign bit, eleven bits of exponent and fifty-two of fraction. `Binary64.value` is
the rational number that it assigns to them, with its two cases: numbers with a leading one that is
not stored, and subnormal numbers without it. `Binary64.view` reads the bits as whole numbers
instead, and the two agree (`view_nan_iff`, `view_infinite_iff`, `magnitude_of_view`).
-/

namespace Rehearsal.Binary64

/-! ### The format -/

def isNegative (x : Binary64) : Bool := x.bits.toBitVec.msb

/-- The exponent as it is stored, `1023` too large. -/
def biasedExponent (x : Binary64) : BitVec 11 := x.bits.toBitVec.extractLsb' 52 11

/-- The bits after the point. -/
def fraction (x : Binary64) : BitVec 52 := x.bits.toBitVec.extractLsb' 0 52

def IsNaN (x : Binary64) : Prop := x.biasedExponent = .allOnes 11 ∧ x.fraction ≠ 0

def IsInfinite (x : Binary64) : Prop := x.biasedExponent = .allOnes 11 ∧ x.fraction = 0

/-- The magnitude of a number: `1.fraction * 2 ^ exponent`, or `0.fraction * 2 ^ -1022` if nothing
is stored as the exponent. -/
def magnitude (x : Binary64) : ℚ :=
  if x.biasedExponent = 0 then x.fraction.toNat / 2 ^ 52 * 2 ^ (-1022 : ℤ)
  else (1 + x.fraction.toNat / 2 ^ 52) * 2 ^ ((x.biasedExponent.toNat : ℤ) - 1023)

/-- The number that the bits stand for, if they stand for one. -/
def value (x : Binary64) : ℚ := if x.isNegative then -x.magnitude else x.magnitude

/-! ### Reading the bits -/

section View

variable {x : Binary64}

theorem isNegative_eq (x : Binary64) : x.isNegative = decide (Nat.pow 2 63 ≤ x.bits.toNat) :=
  BitVec.msb_eq_decide _

theorem toNat_biasedExponent (x : Binary64) :
    x.biasedExponent.toNat = x.bits.toNat / Nat.pow 2 52 % Nat.pow 2 11 := by
  rw [biasedExponent, BitVec.extractLsb'_toNat, Nat.shiftRight_eq_div_pow]
  rfl

theorem toNat_fraction (x : Binary64) : x.fraction.toNat = x.bits.toNat % Nat.pow 2 52 := by
  rw [fraction, BitVec.extractLsb'_toNat, Nat.shiftRight_zero]
  rfl

theorem view_eq (x : Binary64) :
    x.view =
      if x.biasedExponent = .allOnes 11 then
        if x.fraction = 0 then .infinite x.isNegative else .nan
      else if x.biasedExponent = 0 then .finite x.isNegative x.fraction.toNat minExponent
      else .finite x.isNegative (Nat.pow 2 52 + x.fraction.toNat)
        (minExponent + (x.biasedExponent.toNat - 1 : Nat)) := by
  have hones : x.biasedExponent = .allOnes 11 ↔
      x.bits.toNat / Nat.pow 2 52 % Nat.pow 2 11 = 2047 := by
    rw [← toNat_biasedExponent, ← BitVec.toNat_inj]
    rfl
  have hzero : x.biasedExponent = 0 ↔ x.bits.toNat / Nat.pow 2 52 % Nat.pow 2 11 = 0 := by
    rw [← toNat_biasedExponent, ← BitVec.toNat_inj]
    rfl
  have hfraction : x.fraction = 0 ↔ x.bits.toNat % Nat.pow 2 52 = 0 := by
    rw [← toNat_fraction, ← BitVec.toNat_inj]
    rfl
  rw [view, isNegative_eq, toNat_biasedExponent, toNat_fraction]
  simp only [hones, hzero, hfraction]

theorem view_nan_iff : x.view = .nan ↔ x.IsNaN := by
  rw [view_eq, IsNaN]
  split
  · next hones => split <;> simp_all
  · next hones => exact iff_of_false (by split <;> exact nofun) (fun h => hones h.1)

theorem view_infinite_iff {negative : Bool} :
    x.view = .infinite negative ↔ x.IsInfinite ∧ x.isNegative = negative := by
  rw [view_eq, IsInfinite]
  split
  · next hones => split <;> simp_all
  · next hones => exact iff_of_false (by split <;> exact nofun) (fun h => hones h.1.1)

/-- The point is moved behind the fraction. -/
theorem two_zpow_sub (e : ℤ) : (2 : ℚ) ^ (e - 52) = 2 ^ e / 2 ^ 52 := by
  rw [zpow_sub₀ two_ne_zero]
  rfl

/-- A double that is read as a number has that magnitude. -/
theorem magnitude_of_view {negative : Bool} {mantissa : Nat} {exponent : Int}
    (h : x.view = .finite negative mantissa exponent) :
    mantissa < 2 ^ 53 ∧ x.magnitude = mantissa * 2 ^ exponent := by
  have hfraction : x.fraction.toNat < 2 ^ 52 := x.fraction.isLt
  rw [view_eq] at h
  split at h
  · split at h <;> cases h
  · rw [magnitude]
    split at h
    · next hzero =>
      cases h
      rw [if_pos hzero]
      refine ⟨by omega, ?_⟩
      rw [show minExponent = -1022 - 52 from rfl, two_zpow_sub, div_mul_eq_mul_div, mul_div_assoc]
    · next hzero =>
      cases h
      rw [if_neg hzero]
      have hpow : Nat.pow 2 52 = 2 ^ 52 := rfl
      refine ⟨by omega, ?_⟩
      have hpos : x.biasedExponent.toNat ≠ 0 := fun hnone => hzero (BitVec.eq_of_toNat_eq hnone)
      have hexponent : minExponent + (x.biasedExponent.toNat - 1 : Nat) =
          ((x.biasedExponent.toNat : ℤ) - 1023) - 52 := by
        rw [minExponent]
        omega
      have hmantissa : ((Nat.pow 2 52 + x.fraction.toNat : Nat) : ℚ) =
          2 ^ 52 * (1 + x.fraction.toNat / 2 ^ 52) := by
        rw [hpow, Nat.cast_add, Nat.cast_pow, mul_add, mul_one, mul_div_cancel₀ _ (by positivity)]
        rfl
      rw [hexponent, hmantissa, two_zpow_sub]
      field_simp

theorem isNegative_of_view {negative : Bool} {mantissa : Nat} {exponent : Int}
    (h : x.view = .finite negative mantissa exponent) : x.isNegative = negative := by
  rw [view_eq] at h
  split at h
  · split at h <;> cases h
  · split at h <;> cases h <;> rfl

/-- A double is below zero if it has a sign and is not zero. -/
theorem value_neg_iff {negative : Bool} {mantissa : Nat} {exponent : Int}
    (h : x.view = .finite negative mantissa exponent) :
    x.value < 0 ↔ negative = true ∧ mantissa ≠ 0 := by
  have hpower : (0 : ℚ) < 2 ^ exponent := by positivity
  rw [value, isNegative_of_view h, (magnitude_of_view h).2]
  cases negative with
  | false => simpa using mul_nonneg (Nat.cast_nonneg mantissa) hpower.le
  | true => simp [hpower, Nat.pos_iff_ne_zero]

/-- A negative zero is zero. -/
theorem value_of_not_neg {negative : Bool} {mantissa : Nat} {exponent : Int}
    (h : x.view = .finite negative mantissa exponent) (hneg : ¬ x.value < 0) :
    x.value = mantissa * 2 ^ exponent := by
  rw [value_neg_iff h] at hneg
  rw [value, isNegative_of_view h, (magnitude_of_view h).2]
  cases negative with
  | false => rfl
  | true =>
    obtain rfl : mantissa = 0 := by simpa using hneg
    simp

/-! ### Powers and quotients of whole numbers -/

theorem powerOfTwo_spec (e : Int) :
    0 < (powerOfTwo e).2 ∧ ((powerOfTwo e).1 : ℚ) / (powerOfTwo e).2 = 2 ^ e := by
  rw [powerOfTwo]
  split
  · next hnonneg =>
    obtain ⟨n, rfl⟩ := Int.eq_ofNat_of_zero_le hnonneg
    refine ⟨Nat.one_pos, ?_⟩
    rw [Int.toNat_natCast, zpow_natCast, Nat.cast_one, div_one]
    exact Nat.cast_pow 2 n
  · next hneg =>
    obtain ⟨n, rfl⟩ : ∃ n : Nat, e = -n := ⟨(-e).toNat, by omega⟩
    refine ⟨Nat.pow_pos two_pos, ?_⟩
    rw [neg_neg, Int.toNat_natCast, zpow_neg, zpow_natCast, Nat.cast_one, one_div]
    exact congrArg _ (Nat.cast_pow 2 n)

/-- The quotient is the number. -/
theorem ratio_spec (mantissa : Nat) (exponent : Int) :
    0 < (ratio mantissa exponent).2 ∧
      ((ratio mantissa exponent).1 : ℚ) / (ratio mantissa exponent).2 =
        mantissa * 2 ^ exponent := by
  obtain ⟨hpos, hpower⟩ := powerOfTwo_spec exponent
  refine ⟨hpos, ?_⟩
  rw [← hpower, ← mul_div_assoc]
  exact congrArg (· / _) (Nat.cast_mul mantissa _)

end View

end Rehearsal.Binary64
