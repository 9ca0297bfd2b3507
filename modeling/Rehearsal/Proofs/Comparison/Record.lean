import Rehearsal.Proofs.Comparison

/-!
# What a comparison records

`Cursor.Records` says what lines of output do to a cursor, whatever the cap, the sink, and the way
the comparison comes out: right lines are dropped from the front of the expected output, wrong ones
after them are recorded, and after a wrong line there is no right one. `compareLines_records` and
`feed_records` say that nothing else happens, and that the lines are the first of those that were
compared.

The second half is about two comparators that differ in their cap. The one with the smaller cap
finds the same, unless its cap is reached: then the other one finds what it found, and may record
more wrong lines (`feed_of_cap_le`).
-/

namespace Rehearsal

open Bytes

namespace Cursor

theorem diverged_iff_ne_empty {c : Cursor} : c.diverged = true ↔ c.mismatches ≠ #[] := by
  simp [diverged]

theorem diverged_addMismatch (c : Cursor) (line : Bytes) :
    (c.addMismatch line).diverged = true := by
  rw [diverged_iff, mismatches_addMismatch]
  exact List.append_ne_nil_of_right_ne_nil _ (List.cons_ne_nil _ _)

/-- The second cursor is the first one after some right lines and some wrong ones. -/
structure Records (c : Cursor) (right wrong : List Bytes) (d : Cursor) : Prop where
  expected : right.flatten ++ d.expected = c.expected
  mismatches : d.mismatches.toList = c.mismatches.toList ++ wrong
  right_nil : c.diverged = true → right = []

namespace Records

variable {c d e : Cursor} {right wrong : List Bytes} {line : Bytes}

theorem of_eq (hexpected : d.expected = c.expected) (hmismatches : d.mismatches = c.mismatches) :
    c.Records [] [] d :=
  ⟨hexpected, by rw [hmismatches, List.append_nil], fun _ => rfl⟩

/-- A right line in front of all others. -/
theorem cons_right (haccepts : Comparator.accepts c line = true)
    (h : (c.consumeExpected line).Records right wrong d) : c.Records (line :: right) wrong d := by
  refine ⟨?_, h.mismatches, fun hwrong => ?_⟩
  · rw [List.flatten_cons, List.append_assoc, h.expected,
      Comparator.append_expected_of_accepts haccepts]
  · rw [Comparator.accepts, hwrong] at haccepts
    cases haccepts

/-- A wrong line in front of all others; they are wrong as well. -/
theorem cons_wrong (h : (c.addMismatch line).Records right wrong d) :
    right = [] ∧ c.Records [] (line :: wrong) d := by
  obtain rfl : right = [] := h.right_nil (diverged_addMismatch c line)
  refine ⟨rfl, h.expected, ?_, fun _ => rfl⟩
  rw [h.mismatches, mismatches_addMismatch, List.append_assoc, List.singleton_append]

/-- After a wrong line, what is expected stays as it is. -/
theorem expected_eq (h : c.Records [] wrong d) : d.expected = c.expected := h.expected

theorem mismatches_prefix (h : c.Records right wrong d) :
    c.mismatches.toList <+: d.mismatches.toList := by
  rw [h.mismatches]
  exact List.prefix_append _ _

theorem diverged (h : c.Records right wrong d) (hwrong : c.diverged = true) :
    d.diverged = true := by
  rw [diverged_iff] at hwrong ⊢
  rw [h.mismatches]
  exact List.append_ne_nil_of_left_ne_nil hwrong _

/-- What two stretches of output record, one after the other. -/
theorem trans {right' wrong' : List Bytes} (h : c.Records right wrong d)
    (h' : d.Records right' wrong' e) : c.Records (right ++ right') (wrong ++ wrong') e := by
  refine ⟨?_, ?_, fun hwrong => ?_⟩
  · rw [List.flatten_append, List.append_assoc, h'.expected, h.expected]
  · rw [h'.mismatches, h.mismatches, List.append_assoc]
  · rw [h.right_nil hwrong, h'.right_nil (h.diverged hwrong), List.append_nil]

end Records

end Cursor

namespace Comparator

variable (k : Comparator) (c : Cursor) (echo : Sink)

/-- A comparison drops right lines and records wrong ones, and these are the first of its lines. -/
theorem compareLines_records (lines : List Bytes) :
    ∃ right wrong rest, lines = right ++ wrong ++ rest ∧
      c.Records right wrong (k.compareLines c echo lines).cursor := by
  induction lines generalizing c echo with
  | nil => exact ⟨[], [], [], rfl, .of_eq rfl rfl⟩
  | cons line lines ih =>
    rw [compareLines]
    split
    · next haccepts =>
      cases echo.write line with
      | error full =>
        -- A right line is dropped only after it was echoed.
        exact ⟨[], [], line :: lines, rfl, .of_eq rfl rfl⟩
      | ok echo =>
        obtain ⟨right, wrong, rest, rfl, h⟩ := ih (c.consumeExpected line) echo
        exact ⟨line :: right, wrong, rest, rfl, h.cons_right haccepts⟩
    · dsimp only
      split
      · have hline : (c.addMismatch line).Records [] [] (c.addMismatch line) := .of_eq rfl rfl
        exact ⟨[], [line], lines, rfl, hline.cons_wrong.2⟩
      · obtain ⟨right, wrong, rest, rfl, h⟩ := ih (c.addMismatch line) echo
        obtain ⟨rfl, hwrong⟩ := h.cons_wrong
        exact ⟨[], line :: wrong, rest, rfl, hwrong⟩

/-- If error output is all that is not recorded as a wrong line, it stays so. -/
theorem sawError_compareLines (lines : List Bytes) (h : c.sawError = c.diverged) :
    (k.compareLines c echo lines).cursor.sawError =
      (k.compareLines c echo lines).cursor.diverged := by
  induction lines generalizing c echo with
  | nil => exact h
  | cons line lines ih =>
    have hwrong : (c.addMismatch line).sawError = (c.addMismatch line).diverged :=
      (Cursor.diverged_addMismatch c line).symm
    rw [compareLines]
    split
    · cases echo.write line with
      | error full => exact h
      | ok echo => exact ih (c.consumeExpected line) echo h
    · dsimp only
      split
      · exact hwrong
      · exact ih (c.addMismatch line) echo hwrong

section Feed

variable (data : Bytes)

theorem feed_sawError :
    (k.feed c data echo).cursor.sawError = (k.compareCompleted c data echo).cursor.sawError := by
  rw [feed_eq]

/-- So does feeding, with the lines that new output completes. -/
theorem feed_records :
    ∃ right wrong rest, (splitLines (c.carry ++ data)).1 = right ++ wrong ++ rest ∧
      c.Records right wrong (k.feed c data echo).cursor := by
  obtain ⟨right, wrong, rest, hlines, h⟩ :=
    k.compareLines_records { c with carry := [] } echo (splitLines (c.carry ++ data)).1
  refine ⟨right, wrong, rest, hlines, ?_, ?_, h.right_nil⟩
  · rw [feed_expected]
    exact h.expected
  · rw [feed_mismatches]
    exact h.mismatches

theorem sawError_feed (h : c.sawError = c.diverged) :
    (k.feed c data echo).cursor.sawError = (k.feed c data echo).cursor.diverged := by
  rw [feed_sawError, Cursor.diverged, feed_mismatches]
  exact k.sawError_compareLines { c with carry := [] } echo _ h

end Feed

/-! ### Two caps -/

variable {k₁ k₂ : Comparator}

/-- The comparison with the smaller cap comes out the same, or it stops at a wrong line and the
other one may record more of them. -/
theorem compareLines_of_cap_le (hcap : k₁.cap ≤ k₂.cap) (lines : List Bytes) :
    k₁.compareLines c echo lines = k₂.compareLines c echo lines ∨
      (k₁.compareLines c echo lines).flow = .stop ∧
        (k₁.compareLines c echo lines).cursor.diverged = true ∧
        ∃ wrong, (k₁.compareLines c echo lines).cursor.Records [] wrong
          (k₂.compareLines c echo lines).cursor := by
  induction lines generalizing c echo with
  | nil => exact .inl rfl
  | cons line lines ih =>
    rw [compareLines, compareLines]
    split
    · cases echo.write line with
      | error full => exact .inl rfl
      | ok echo => exact ih (c.consumeExpected line) echo
    · dsimp only
      by_cases hstop : k₁.cap ≤ (c.addMismatch line).mismatches.size
      · rw [if_pos hstop]
        refine .inr ⟨rfl, Cursor.diverged_addMismatch c line, ?_⟩
        -- The larger cap is reached by the same line, or what comes is found with it on record.
        split
        · exact ⟨[], .of_eq rfl rfl⟩
        · obtain ⟨right, wrong, rest, -, h⟩ :=
            k₂.compareLines_records (c.addMismatch line) echo lines
          obtain rfl : right = [] := h.right_nil (Cursor.diverged_addMismatch c line)
          exact ⟨wrong, h⟩
      · rw [if_neg hstop, if_neg fun h => hstop (Nat.le_trans hcap h)]
        exact ih (c.addMismatch line) echo

/-- So does feeding. -/
theorem feed_of_cap_le (hcap : k₁.cap ≤ k₂.cap) (data : Bytes) :
    k₁.feed c data echo = k₂.feed c data echo ∨
      (k₁.feed c data echo).flow = .stop ∧ (k₁.feed c data echo).cursor.diverged = true ∧
        ∃ wrong, (k₁.feed c data echo).cursor.Records [] wrong (k₂.feed c data echo).cursor := by
  rcases compareLines_of_cap_le { c with carry := [] } echo hcap (splitLines (c.carry ++ data)).1
    with heq | ⟨hstop, hwrong, wrong, h⟩
  · left
    have hcompleted : k₁.compareCompleted c data echo = k₂.compareCompleted c data echo := heq
    rw [feed_eq, feed_eq, hcompleted]
  · refine .inr ⟨?_, ?_, wrong, ?_, ?_, fun _ => rfl⟩
    · rw [feed_flow]
      exact hstop
    · rw [Cursor.diverged, feed_mismatches]
      exact hwrong
    · rw [feed_expected, feed_expected]
      exact h.expected
    · rw [feed_mismatches, feed_mismatches]
      exact h.mismatches

end Comparator

end Rehearsal
