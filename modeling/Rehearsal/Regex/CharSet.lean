/-!
# Sets of characters

A set is a list of ranges of character numbers, in any order and with any overlaps. Membership is
what the operations are about: a character is in the union if it is in one of the two, and so on.
-/

namespace Rehearsal.Regex

/-- A set of characters, as ranges of their numbers with both ends in them. -/
abbrev CharSet := List (Nat × Nat)

namespace CharSet

/-- Is a character in the set? -/
def has (s : CharSet) (c : Char) : Bool := s.any fun (a, b) => a ≤ c.toNat && c.toNat ≤ b

/-- The numbers that are in both of two sets. -/
def inter (s t : CharSet) : CharSet :=
  s.flatMap fun (a, b) => t.filterMap fun (c, d) =>
    let low := max a c
    let high := min b d
    if low ≤ high then some (low, high) else none

/-- The numbers up to `top` outside one range. -/
def outside (top : Nat) (r : Nat × Nat) : CharSet :=
  (if r.1 = 0 then [] else [(0, r.1 - 1)]) ++ (if r.2 < top then [(r.2 + 1, top)] else [])

/-- The numbers up to `top` that are not in a set. -/
def complement (top : Nat) (s : CharSet) : CharSet :=
  s.foldl (fun rest r => inter rest (outside top r)) [(0, top)]

/-- The numbers in the first set and not in the second. -/
def difference (top : Nat) (s t : CharSet) : CharSet := inter s (complement top t)

/-- The numbers in exactly one of two sets. -/
def symmetricDifference (top : Nat) (s t : CharSet) : CharSet :=
  difference top s t ++ difference top t s

/-- With every letter of ASCII, the same letter in the other case. -/
def foldCase (s : CharSet) : CharSet :=
  let shifted (first last : Nat) (f : Nat → Nat) : CharSet :=
    (inter s [(first, last)]).map fun (a, b) => (f a, f b)
  s ++ shifted 65 90 (· + 32) ++ shifted 97 122 (· - 32)

/-- Does the set lie within ASCII? -/
def isAscii (s : CharSet) : Bool := s.all fun (_, b) => b < 128

theorem has_append (s t : CharSet) (c : Char) : has (s ++ t) c = (has s c || has t c) := by
  simp [has]

theorem has_inter (s t : CharSet) (c : Char) : has (inter s t) c = (has s c && has t c) := by
  rw [Bool.eq_iff_iff]
  simp only [has, inter, List.any_flatMap, List.any_filterMap, List.any_eq_true, Bool.and_eq_true,
    decide_eq_true_eq]
  constructor
  · rintro ⟨⟨a, b⟩, hr, ⟨c', d⟩, hs, h⟩
    refine ⟨⟨_, hr, ?_⟩, ⟨_, hs, ?_⟩⟩ <;> grind
  · rintro ⟨⟨⟨a, b⟩, hr, h₁⟩, ⟨⟨c', d⟩, hs, h₂⟩⟩
    refine ⟨_, hr, _, hs, ?_⟩
    grind

end CharSet

end Rehearsal.Regex
