/-!
# Operations that can go wrong

A sum can be too large for the 64 bits that a number has, a difference can be negative, the bounds
between which a number is to lie can be the wrong way round, and a list can be shorter than the
front that is taken of it. An operation here looks out for that, and where it goes wrong it comes to
nothing. The program does not go on without the result.

Each operation has a lemma for when it goes well.
-/

namespace Rehearsal.Checked

/-- A sum, if it is a number of 64 bits. -/
def add? (a b : Nat) : Option Nat := if a + b < Nat.pow 2 64 then some (a + b) else none

/-- A difference, if it is not negative. -/
def sub? (a b : Nat) : Option Nat := if b ≤ a then some (a - b) else none

/-- The number between two bounds that is next to a number, if the bounds are in order. -/
def clamp? (n low high : Nat) : Option Nat :=
  if low ≤ high then some (max low (min n high)) else none

/-- The front of a list, if the list is long enough. -/
def take? {α : Type} (xs : List α) (n : Nat) : Option (List α) :=
  if n ≤ xs.length then some (xs.take n) else none

variable {a b n low high : Nat}

theorem add?_eq_some_iff : add? a b = some n ↔ n = a + b ∧ a + b < Nat.pow 2 64 := by
  rw [add?]
  split
  · next hfits => rw [Option.some_inj, eq_comm, and_iff_left hfits]
  · next hlarge => exact iff_of_false nofun fun h => hlarge h.2

theorem add?_eq_none_iff : add? a b = none ↔ Nat.pow 2 64 ≤ a + b := by
  rw [add?]
  split
  · next hfits => exact iff_of_false nofun (Nat.not_le.mpr hfits)
  · next hlarge => exact iff_of_true rfl (Nat.le_of_not_lt hlarge)

theorem sub?_of_le (h : b ≤ a) : sub? a b = some (a - b) := if_pos h

theorem clamp?_of_le (h : low ≤ high) : clamp? n low high = some (max low (min n high)) := if_pos h

theorem take?_of_le {α : Type} {xs : List α} (h : n ≤ xs.length) :
    take? xs n = some (xs.take n) := if_pos h

end Rehearsal.Checked
