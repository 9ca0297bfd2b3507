import Mathlib.Algebra.Order.Field.Basic
import Mathlib.Algebra.Order.Ring.Rat
import Mathlib.Algebra.Ring.Int.Parity
import Mathlib.Tactic.FieldSimp
import Mathlib.Tactic.Linarith
import Mathlib.Tactic.Positivity
import Mathlib.Tactic.Ring
import Rehearsal.Number.Rounding

/-!
# The whole number nearest to a rational one

`IsNearest` says what rounding is for without saying how it is done: no whole number is nearer, and
where another one is as near, the even one is taken. Two things follow from this alone. Rounding
keeps the order (`IsNearest.mono`): of two numbers that were exchanged, each would lie on the wrong
side of the middle between the results, so both would lie in it, and a tie has one result. And a
whole number is kept (`IsNearest.natCast`). `roundHalfEven` rounds so (`isNearest_roundHalfEven`).
-/

namespace Rehearsal

/-- No whole number is nearer, and if another one is as near, this one is even. -/
structure IsNearest (n : Nat) (q : ℚ) : Prop where
  nearest : ∀ m : ℤ, |q - n| ≤ |q - m|
  even : ∀ m : ℤ, m ≠ n → |q - n| = |q - m| → Even n

namespace IsNearest

variable {n n' : Nat} {q q' : ℚ}

/-- Whole numbers are at least one apart, so less than half a unit is nearest. -/
theorem of_half (h : |q - n| ≤ 1 / 2) (heven : |q - n| = 1 / 2 → Even n) : IsNearest n q := by
  have hapart : ∀ m : ℤ, m ≠ n → 1 / 2 ≤ |q - m| := by
    intro m hm
    have hone : (1 : ℚ) ≤ |(m : ℚ) - n| := by
      have hint : (1 : ℤ) ≤ |m - n| := Int.one_le_abs (sub_ne_zero.mpr hm)
      exact_mod_cast hint
    have htriangle : |(m : ℚ) - n| ≤ |m - q| + |q - n| := abs_sub_le _ _ _
    rw [abs_sub_comm (m : ℚ) q] at htriangle
    linarith
  refine ⟨fun m => ?_, fun m hm hsame => heven (le_antisymm h ?_)⟩
  · by_cases hm : m = n
    · rw [hm, Int.cast_natCast]
    · exact h.trans (hapart m hm)
  · rw [hsame]
    exact hapart m hm

/-- The result is within half a unit: the whole numbers beside it are no nearer. -/
theorem within_half (h : IsNearest n q) : (n : ℚ) - 1 / 2 ≤ q ∧ q ≤ n + 1 / 2 := by
  have hbelow := h.nearest (n - 1)
  have habove := h.nearest (n + 1)
  rw [← sq_le_sq] at hbelow habove
  push_cast at hbelow habove
  constructor
  · linarith only [hbelow]
  · linarith only [habove]

/-- Rounding keeps the order. -/
theorem mono (h : IsNearest n q) (h' : IsNearest n' q') (hle : q ≤ q') : n ≤ n' := by
  obtain ⟨hlow, -⟩ := h.within_half
  obtain ⟨-, hhigh⟩ := h'.within_half
  by_contra hlt
  have hcast : (n' : ℚ) + 1 ≤ n := by exact_mod_cast Nat.lt_of_not_le hlt
  -- Both lie in the middle between the results, and there a result is even.
  have hq : q = n' + 1 / 2 := by linarith only [hlow, hhigh, hcast, hle]
  have hq' : q' = n' + 1 / 2 := by linarith only [hlow, hhigh, hcast, hle]
  have hnext : n = n' + 1 := by
    have hnext : (n : ℚ) = n' + 1 := by linarith only [hlow, hhigh, hcast, hle]
    exact_mod_cast hnext
  have heven : Even n := by
    apply h.even n' (by omega)
    rw [hq, hnext]
    norm_num
  have heven' : Even n' := by
    apply h'.even n (by omega)
    rw [hq', hnext]
    norm_num
  rw [hnext, Nat.even_add_one] at heven
  exact heven heven'

/-- A number has one nearest whole number. -/
theorem unique (h : IsNearest n q) (h' : IsNearest n' q) : n = n' :=
  le_antisymm (h.mono h' le_rfl) (h'.mono h le_rfl)

/-- A whole number is the nearest to itself. -/
theorem natCast (n : Nat) : IsNearest n (n : ℚ) :=
  of_half (by norm_num) (by norm_num)

end IsNearest

/-- A quotient is rounded to the nearest whole number. -/
theorem isNearest_roundHalfEven (num : Nat) {den : Nat} (hden : 0 < den) :
    IsNearest (roundHalfEven num den) (num / den : ℚ) := by
  have hpos : (0 : ℚ) < den := by exact_mod_cast hden
  have hquotient : (num : ℚ) / den = (num / den : Nat) + (num % den : Nat) / den := by
    have hdivmod : (den : ℚ) * (num / den : Nat) + (num % den : Nat) = num := by
      exact_mod_cast Nat.div_add_mod num den
    rw [← hdivmod]
    field_simp
  have hrest : num % den < den := Nat.mod_lt _ hden
  rw [hquotient, roundHalfEven]
  generalize num / den = q
  generalize num % den = r at hrest ⊢
  have hnonneg : (0 : ℚ) ≤ r / den := by positivity
  have hone : (r : ℚ) / den < 1 := by
    rw [div_lt_one hpos]
    exact_mod_cast hrest
  split
  · next hlow =>
    have hhalf : (r : ℚ) / den < 1 / 2 := by
      rw [div_lt_div_iff₀ hpos two_pos]
      exact_mod_cast (by omega : r * 2 < 1 * den)
    have hdist : |(q : ℚ) + r / den - q| = r / den := by
      rw [add_sub_cancel_left, abs_of_nonneg hnonneg]
    exact .of_half (by linarith) (fun htie => by linarith)
  · split
    · next hhigh =>
      have hhalf : 1 / 2 < (r : ℚ) / den := by
        rw [div_lt_div_iff₀ two_pos hpos]
        exact_mod_cast (by omega : 1 * den < r * 2)
      have hdist : |(q : ℚ) + r / den - (q + 1 : Nat)| = 1 - r / den := by
        push_cast
        rw [abs_of_nonpos (by linarith)]
        ring
      exact .of_half (by linarith) (fun htie => by linarith)
    · -- The quotient lies in the middle, and the even neighbour is taken.
      next hlow hhigh =>
      have hhalf : (r : ℚ) / den = 1 / 2 := by
        rw [div_eq_div_iff hpos.ne' two_ne_zero]
        exact_mod_cast (by omega : r * 2 = 1 * den)
      rw [hhalf]
      split
      · next heven =>
        exact .of_half (by norm_num) (fun _ => Nat.even_iff.mpr heven)
      · next hodd =>
        refine .of_half ?_ (fun _ => Nat.even_add_one.mpr (by rwa [Nat.even_iff]))
        push_cast
        rw [show (q : ℚ) + 1 / 2 - (q + 1) = -(1 / 2) by ring, abs_neg]
        norm_num

/-- Every number that is not negative has a nearest whole number. -/
theorem IsNearest.exists {q : ℚ} (h : 0 ≤ q) : ∃ n, IsNearest n q := by
  obtain ⟨num, hnum⟩ := Int.eq_ofNat_of_zero_le (Rat.num_nonneg.mpr h)
  have hnearest := isNearest_roundHalfEven num q.den_pos
  rw [← Int.cast_natCast num, ← hnum, Rat.num_div_den] at hnearest
  exact ⟨_, hnearest⟩

end Rehearsal
