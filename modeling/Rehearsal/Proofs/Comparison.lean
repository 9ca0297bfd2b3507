import Rehearsal.Comparator
import Rehearsal.Proofs.Lines

/-!
# What a comparison finds

Output is compared piece by piece, and a line of it may be spread over any number of pieces. What
the comparator finds does not depend on that: after some output, the lines that were right are the
longest common prefix of the lines of the output and the lines of the script, and all lines after
them are wrong.

`Aligned` says this of the lines that were looked at, and one line more keeps it, right or wrong
(`Aligned.consumeExpected`, `Aligned.addMismatch`); so a whole list of lines does, however the
comparison comes out (`compareLines_aligned`). `Compared` adds the unfinished line and speaks of
bytes; `feed` keeps it (`Compared.feed_more`). The main statement,
`feedAll_finds_longest_common_prefix`, is about pieces of output that are fed one after the other
until the cap is reached.
-/

namespace Rehearsal

namespace Cursor

@[simp] theorem expected_start (input expected : Bytes) :
    (start input expected).expected = expected := rfl

@[simp] theorem mismatches_start (input expected : Bytes) :
    (start input expected).mismatches.toList = [] := rfl

@[simp] theorem mismatches_addMismatch (c : Cursor) (line : Bytes) :
    (c.addMismatch line).mismatches.toList = c.mismatches.toList ++ [line] := by
  simp [addMismatch]

theorem diverged_iff {c : Cursor} : c.diverged = true ↔ c.mismatches.toList ≠ [] := by
  simp [diverged]

theorem diverged_eq_false_iff {c : Cursor} : c.diverged = false ↔ c.mismatches.toList = [] := by
  simp [diverged]

end Cursor

namespace Comparator

open Bytes

/-- At least one wrong line is taken. -/
theorem cap_ofThreshold_pos (threshold : Nat) : 0 < (ofThreshold threshold).cap :=
  Nat.lt_of_lt_of_le Nat.zero_lt_one (Nat.le_max_right _ _)

/-! ### Right and wrong lines -/

/-- The right ones of the lines of some output: those with which the script begins as well. -/
def rightLines (expected : Bytes) (lines : List Bytes) : List Bytes :=
  commonPrefix lines (splitLines expected).1

/-- The wrong ones of the lines of some output: all after the right ones. -/
def wrongLines (expected : Bytes) (lines : List Bytes) : List Bytes :=
  lines.drop (rightLines expected lines).length

variable {expected : Bytes} {lines : List Bytes}

theorem rightLines_prefix_lines (expected : Bytes) (lines : List Bytes) :
    rightLines expected lines <+: lines :=
  commonPrefix_prefix_left _ _

theorem take_length_rightLines (expected : Bytes) (lines : List Bytes) :
    lines.take (rightLines expected lines).length = rightLines expected lines :=
  (List.prefix_iff_eq_take.mp (rightLines_prefix_lines expected lines)).symm

theorem rightLines_append_wrongLines (expected : Bytes) (lines : List Bytes) :
    rightLines expected lines ++ wrongLines expected lines = lines := by
  have h := List.take_append_drop (rightLines expected lines).length lines
  rw [take_length_rightLines] at h
  exact h

theorem length_rightLines_add (expected : Bytes) (lines : List Bytes) :
    (rightLines expected lines).length + (wrongLines expected lines).length = lines.length := by
  rw [← List.length_append, rightLines_append_wrongLines]

theorem length_wrongLines (expected : Bytes) (lines : List Bytes) :
    (wrongLines expected lines).length = lines.length - (rightLines expected lines).length :=
  List.length_drop

/-- No line is wrong if and only if the script begins with all of them. -/
theorem wrongLines_eq_nil_iff :
    wrongLines expected lines = [] ↔ lines <+: (splitLines expected).1 := by
  rw [← commonPrefix_eq_left_iff]
  constructor
  · intro h
    have hsplit := rightLines_append_wrongLines expected lines
    rw [h, List.append_nil] at hsplit
    exact hsplit
  · intro h
    rw [wrongLines, rightLines, h, List.drop_length]

/-- After a wrong line no line is right. -/
theorem rightLines_append_of_wrong (h : wrongLines expected lines ≠ []) (next : List Bytes) :
    rightLines expected (lines ++ next) = rightLines expected lines :=
  commonPrefix_append_of_not_prefix (fun hp => h (wrongLines_eq_nil_iff.mpr hp)) next

/-- After a wrong line all lines are wrong. -/
theorem wrongLines_append_of_wrong (h : wrongLines expected lines ≠ []) (next : List Bytes) :
    wrongLines expected (lines ++ next) = wrongLines expected lines ++ next := by
  rw [wrongLines, rightLines_append_of_wrong h,
    List.drop_append_of_le_length (rightLines_prefix_lines expected lines).length_le, wrongLines]

/-- More output never takes back a line that was right. -/
theorem rightLines_prefix_append (expected : Bytes) (lines next : List Bytes) :
    rightLines expected lines <+: rightLines expected (lines ++ next) :=
  prefix_commonPrefix_iff.mpr
    ⟨(rightLines_prefix_lines expected lines).trans (List.prefix_append _ _),
      commonPrefix_prefix_right _ _⟩

/-! ### Line by line -/

/-- A line that is accepted is dropped from the front of the expected output. -/
theorem append_expected_of_accepts {c : Cursor} {line : Bytes} (h : accepts c line = true) :
    line ++ (c.consumeExpected line).expected = c.expected := by
  rw [accepts, Bool.and_eq_true, List.isPrefixOf_iff_prefix] at h
  obtain ⟨rest, hrest⟩ := h.2
  rw [Cursor.consumeExpected, ← hrest, List.drop_left]

/-- The cursor is where it belongs after these lines of output. -/
structure Aligned (expected : Bytes) (lines : List Bytes) (c : Cursor) : Prop where
  isLine : ∀ line ∈ lines, IsLine line
  right : (rightLines expected lines).flatten ++ c.expected = expected
  wrong : c.mismatches.toList = wrongLines expected lines

namespace Aligned

variable {c : Cursor} {line : Bytes}

theorem start (input expected : Bytes) : Aligned expected [] (.start input expected) where
  isLine := by simp
  right := by simp [rightLines]
  wrong := by simp [wrongLines]

theorem size_eq (h : Aligned expected lines c) :
    c.mismatches.size = (wrongLines expected lines).length := by
  rw [← h.wrong, Array.length_toList]

theorem diverged_eq_false_iff (h : Aligned expected lines c) :
    c.diverged = false ↔ lines <+: (splitLines expected).1 := by
  rw [Cursor.diverged_eq_false_iff, h.wrong, wrongLines_eq_nil_iff]

theorem isLine_concat (h : Aligned expected lines c) (hline : IsLine line) :
    ∀ l ∈ lines ++ [line], IsLine l := by
  intro l hl
  rcases List.mem_append.mp hl with hl | hl
  · exact h.isLine l hl
  · rw [List.mem_singleton.mp hl]
    exact hline

/-- A line is right if and only if it is the next line of the script. -/
theorem accepts_iff (h : Aligned expected lines c) (hline : IsLine line) :
    accepts c line = true ↔ lines ++ [line] <+: (splitLines expected).1 := by
  rw [accepts, Bool.and_eq_true, Bool.not_eq_true', h.diverged_eq_false_iff,
    List.isPrefixOf_iff_prefix]
  constructor
  · rintro ⟨hlines, hprefix⟩
    rw [← flatten_prefix_iff (h.isLine_concat hline), ← h.right, rightLines,
      commonPrefix_eq_left_iff.mpr hlines, List.flatten_concat]
    exact List.prefix_append_right_inj _ |>.mpr hprefix
  · intro hconcat
    have hlines : lines <+: (splitLines expected).1 := (List.prefix_append _ _).trans hconcat
    refine ⟨hlines, ?_⟩
    rw [← flatten_prefix_iff (h.isLine_concat hline), ← h.right, rightLines,
      commonPrefix_eq_left_iff.mpr hlines, List.flatten_concat] at hconcat
    exact List.prefix_append_right_inj _ |>.mp hconcat

/-- A right line joins the right ones. -/
theorem consumeExpected (h : Aligned expected lines c) (hline : IsLine line)
    (haccepts : accepts c line = true) :
    Aligned expected (lines ++ [line]) (c.consumeExpected line) := by
  have hconcat := (h.accepts_iff hline).mp haccepts
  have hlines : lines <+: (splitLines expected).1 := (List.prefix_append _ _).trans hconcat
  refine ⟨h.isLine_concat hline, ?_, ?_⟩
  · have hright := h.right
    rw [rightLines, commonPrefix_eq_left_iff.mpr hlines] at hright
    rw [rightLines, commonPrefix_eq_left_iff.mpr hconcat, List.flatten_concat, List.append_assoc,
      append_expected_of_accepts haccepts]
    exact hright
  · rw [wrongLines_eq_nil_iff.mpr hconcat]
    show c.mismatches.toList = []
    rw [h.wrong, wrongLines_eq_nil_iff.mpr hlines]

/-- A wrong line joins the wrong ones. -/
theorem addMismatch (h : Aligned expected lines c) (hline : IsLine line)
    (haccepts : ¬ accepts c line = true) :
    Aligned expected (lines ++ [line]) (c.addMismatch line) := by
  have hright : rightLines expected (lines ++ [line]) = rightLines expected lines :=
    commonPrefix_concat_of_not_prefix (fun hp => haccepts ((h.accepts_iff hline).mpr hp))
  refine ⟨h.isLine_concat hline, ?_, ?_⟩
  · rw [hright]
    exact h.right
  · rw [Cursor.mismatches_addMismatch, h.wrong, wrongLines, wrongLines, hright,
      List.drop_append_of_le_length (rightLines_prefix_lines expected lines).length_le]

/-- Once there are wrong lines, all further lines would only be more of them. -/
theorem append_of_wrong (h : Aligned expected lines c) (hsize : 0 < c.mismatches.size)
    (later : List Bytes) :
    rightLines expected (lines ++ later) = rightLines expected lines ∧
      wrongLines expected (lines ++ later) = c.mismatches.toList ++ later := by
  have hwrong : wrongLines expected lines ≠ [] := by
    intro hnil
    rw [h.size_eq, hnil] at hsize
    exact absurd hsize (Nat.lt_irrefl 0)
  refine ⟨rightLines_append_of_wrong hwrong later, ?_⟩
  rw [wrongLines_append_of_wrong hwrong, h.wrong]

end Aligned

/-- However a comparison comes out, the cursor belongs after the lines that it got through, and it
got through all of them if it was not stopped. -/
theorem compareLines_aligned (k : Comparator) {c : Cursor} (echo : Sink) {next : List Bytes}
    (h : Aligned expected lines c) (hnext : ∀ line ∈ next, IsLine line) :
    ∃ seen rest, next = seen ++ rest ∧
      Aligned expected (lines ++ seen) (k.compareLines c echo next).cursor ∧
      ((k.compareLines c echo next).flow = .more → rest = []) := by
  induction next generalizing lines c echo with
  | nil => exact ⟨[], [], rfl, by simpa [compareLines] using h, fun _ => rfl⟩
  | cons line next ih =>
    have hline : IsLine line := hnext line List.mem_cons_self
    have htail : ∀ line ∈ next, IsLine line := fun l hl => hnext l (List.mem_cons_of_mem _ hl)
    rw [compareLines]
    split
    · next haccepts =>
      cases hwrite : echo.write line with
      | error full =>
        -- The line is right, but it is dropped only after it was echoed.
        exact ⟨[], line :: next, rfl, by simpa using h, by simp⟩
      | ok echo =>
        obtain ⟨seen, rest, rfl, hseen, hrest⟩ := ih echo (h.consumeExpected hline haccepts) htail
        exact ⟨line :: seen, rest, rfl, by simpa using hseen, hrest⟩
    · next haccepts =>
      have hwrong := h.addMismatch hline haccepts
      dsimp only
      split
      · exact ⟨[line], next, rfl, hwrong, by simp⟩
      · obtain ⟨seen, rest, rfl, hseen, hrest⟩ := ih echo hwrong htail
        exact ⟨line :: seen, rest, rfl, by simpa using hseen, hrest⟩

/-! ### What a comparison leaves alone, and what it echoes -/

/-- Only the expected output and the record of wrong lines change. -/
theorem compareLines_frame (k : Comparator) (c : Cursor) (echo : Sink) (next : List Bytes) :
    (k.compareLines c echo next).cursor =
      { c with
        expected := (k.compareLines c echo next).cursor.expected
        mismatches := (k.compareLines c echo next).cursor.mismatches
        sawError := (k.compareLines c echo next).cursor.sawError } := by
  induction next generalizing c echo with
  | nil => rfl
  | cons line next ih =>
    rw [compareLines]
    split
    · cases echo.write line with
      | error full => rfl
      | ok echo => exact ih (c.consumeExpected line) echo
    · dsimp only
      split
      · rfl
      · exact ih (c.addMismatch line) echo

/-- Wrong lines that were recorded stay recorded. -/
theorem mismatches_prefix_compareLines (k : Comparator) (c : Cursor) (echo : Sink)
    (next : List Bytes) :
    c.mismatches.toList <+: (k.compareLines c echo next).cursor.mismatches.toList := by
  induction next generalizing c echo with
  | nil => exact List.prefix_refl _
  | cons line next ih =>
    rw [compareLines]
    split
    · cases echo.write line with
      | error full => exact List.prefix_refl _
      | ok echo => exact ih (c.consumeExpected line) echo
    · have hpush : c.mismatches.toList <+: (c.addMismatch line).mismatches.toList := by
        rw [Cursor.mismatches_addMismatch]
        exact List.prefix_append _ _
      dsimp only
      split
      · exact hpush
      · exact hpush.trans (ih (c.addMismatch line) echo)

/-- The number of wrong lines stays below the cap, or reaches it and stops the comparison. -/
theorem compareLines_size (k : Comparator) (c : Cursor) (echo : Sink) (next : List Bytes)
    (h : c.mismatches.size < k.cap) :
    ((k.compareLines c echo next).flow ≠ .stop →
      (k.compareLines c echo next).cursor.mismatches.size < k.cap) ∧
    ((k.compareLines c echo next).flow = .stop →
      (k.compareLines c echo next).cursor.mismatches.size = k.cap) := by
  induction next generalizing c echo with
  | nil => exact ⟨fun _ => h, by simp [compareLines]⟩
  | cons line next ih =>
    rw [compareLines]
    split
    · cases echo.write line with
      | error full => exact ⟨fun _ => h, by simp⟩
      | ok echo => exact ih (c.consumeExpected line) echo h
    · have hsize : (c.addMismatch line).mismatches.size = c.mismatches.size + 1 :=
        Array.size_push line
      dsimp only
      split
      · next hcap => exact ⟨by simp, fun _ => by rw [hsize] at hcap ⊢; omega⟩
      · next hcap => exact ih (c.addMismatch line) echo (by omega)

/-- What is echoed is what is dropped from the expected output, unless the sink refuses it. -/
theorem compareLines_echo (k : Comparator) (c : Cursor) (echo : Sink) (next : List Bytes)
    (h : (k.compareLines c echo next).flow ≠ .echoFull) :
    ∃ dropped, (k.compareLines c echo next).echo.contents = echo.contents ++ dropped ∧
      dropped ++ (k.compareLines c echo next).cursor.expected = c.expected := by
  induction next generalizing c echo with
  | nil => exact ⟨[], by simp [compareLines], rfl⟩
  | cons line next ih =>
    rw [compareLines] at h ⊢
    split at h
    · next haccepts =>
      rw [if_pos haccepts]
      cases hwrite : echo.write line with
      | error full => simp [hwrite] at h
      | ok echoed =>
        rw [hwrite] at h
        obtain ⟨dropped, hecho, hexpected⟩ := ih _ echoed h
        refine ⟨line ++ dropped, ?_, ?_⟩
        · dsimp only
          rw [hecho, Sink.contents_write hwrite, List.append_assoc]
        · dsimp only
          rw [List.append_assoc, hexpected, append_expected_of_accepts haccepts]
    · next haccepts =>
      rw [if_neg haccepts]
      dsimp only at h ⊢
      split at h
      · next hcap =>
        rw [if_pos hcap]
        exact ⟨[], by simp, rfl⟩
      · next hcap =>
        rw [if_neg hcap]
        exact ih _ echo h

/-- A sink without a limit refuses nothing. -/
theorem compareLines_unlimited (k : Comparator) (c : Cursor) {echo : Sink} (next : List Bytes)
    (h : echo.room = none) :
    (k.compareLines c echo next).flow ≠ .echoFull ∧
      (k.compareLines c echo next).echo.room = none := by
  induction next generalizing c echo with
  | nil => exact ⟨by simp [compareLines], h⟩
  | cons line next ih =>
    rw [compareLines]
    split
    · have hwrite : echo.write line = .ok ⟨line :: echo.pieces, none⟩ := by simp [Sink.write, h]
      rw [hwrite]
      exact ih _ rfl
    · dsimp only
      split
      · exact ⟨by simp, h⟩
      · exact ih _ h

/-! ### Piece by piece -/

section Feed

variable (k : Comparator) (c : Cursor) (data : Bytes) (echo : Sink)

/-- The comparison of the lines that new output completes. -/
def compareCompleted : Fed :=
  k.compareLines { c with carry := [] } echo (splitLines (c.carry ++ data)).1

/-- Feeding is this comparison, up to the unfinished line: it is kept only if all of the output was
compared. -/
theorem feed_eq :
    k.feed c data echo =
      { k.compareCompleted c data echo with
        cursor := { (k.compareCompleted c data echo).cursor with
          carry :=
            if (k.compareCompleted c data echo).flow = .more then (splitLines (c.carry ++ data)).2
            else [] } } := by
  have hcarry : (k.compareCompleted c data echo).cursor.carry = [] := by
    rw [compareCompleted, compareLines_frame]
  unfold compareCompleted at hcarry ⊢
  rw [feed]
  dsimp only
  generalize k.compareLines { c with carry := [] } echo (splitLines (c.carry ++ data)).1 = fed
    at hcarry ⊢
  split
  · next hmore => rw [if_pos hmore]
  · next hmore => rw [if_neg hmore, ← hcarry]

theorem feed_flow : (k.feed c data echo).flow = (k.compareCompleted c data echo).flow := by
  rw [feed_eq]

theorem feed_echo : (k.feed c data echo).echo = (k.compareCompleted c data echo).echo := by
  rw [feed_eq]

theorem feed_expected :
    (k.feed c data echo).cursor.expected = (k.compareCompleted c data echo).cursor.expected := by
  rw [feed_eq]

theorem feed_mismatches :
    (k.feed c data echo).cursor.mismatches =
      (k.compareCompleted c data echo).cursor.mismatches := by
  rw [feed_eq]

/-- Only the output side of a cursor changes. -/
theorem feed_frame :
    (k.feed c data echo).cursor =
      { c with
        expected := (k.feed c data echo).cursor.expected
        carry := (k.feed c data echo).cursor.carry
        mismatches := (k.feed c data echo).cursor.mismatches
        sawError := (k.feed c data echo).cursor.sawError } := by
  rw [feed_eq, compareCompleted, compareLines_frame]

variable {c} in
/-- A wrong line is never forgotten. -/
theorem diverged_feed (h : c.diverged = true) : (k.feed c data echo).cursor.diverged = true := by
  rw [Cursor.diverged_iff] at h ⊢
  rw [feed_mismatches]
  intro hnil
  have hprefix := mismatches_prefix_compareLines k { c with carry := [] } echo
    (splitLines (c.carry ++ data)).1
  exact h (List.prefix_nil.mp (hnil ▸ hprefix))

variable {c}

theorem feed_carry_of_more (h : (k.feed c data echo).flow = .more) :
    (k.feed c data echo).cursor.carry = (splitLines (c.carry ++ data)).2 := by
  rw [feed_flow] at h
  rw [feed_eq, if_pos h]

theorem feed_carry_of_not_more (h : (k.feed c data echo).flow ≠ .more) :
    (k.feed c data echo).cursor.carry = [] := by
  rw [feed_flow] at h
  rw [feed_eq, if_neg h]

theorem feed_size_lt (h : c.mismatches.size < k.cap) (hflow : (k.feed c data echo).flow ≠ .stop) :
    (k.feed c data echo).cursor.mismatches.size < k.cap := by
  rw [feed_flow] at hflow
  rw [feed_mismatches]
  exact (compareLines_size k { c with carry := [] } echo _ h).1 hflow

theorem feed_size_eq (h : c.mismatches.size < k.cap) (hflow : (k.feed c data echo).flow = .stop) :
    (k.feed c data echo).cursor.mismatches.size = k.cap := by
  rw [feed_flow] at hflow
  rw [feed_mismatches]
  exact (compareLines_size k { c with carry := [] } echo _ h).2 hflow

variable (c)

/-- What is echoed is what is dropped from the expected output, unless the sink refuses it. -/
theorem feed_dropped (h : (k.feed c data echo).flow ≠ .echoFull) :
    ∃ dropped, (k.feed c data echo).echo.contents = echo.contents ++ dropped ∧
      dropped ++ (k.feed c data echo).cursor.expected = c.expected := by
  rw [feed_flow] at h
  rw [feed_echo, feed_expected]
  exact compareLines_echo k _ echo _ h

/-- A sink without a limit refuses nothing. -/
theorem feed_unlimited (h : echo.room = none) :
    (k.feed c data echo).flow ≠ .echoFull ∧ (k.feed c data echo).echo.room = none := by
  rw [feed_flow, feed_echo]
  exact compareLines_unlimited k _ _ h

end Feed

/-- The cursor is where it belongs after this output. -/
structure Compared (expected output : Bytes) (c : Cursor) : Prop where
  aligned : Aligned expected (splitLines output).1 c
  carry : c.carry = (splitLines output).2

namespace Compared

variable {output : Bytes} {c : Cursor}

theorem start (input expected : Bytes) : Compared expected [] (.start input expected) :=
  ⟨.start input expected, rfl⟩

/-- Only the output side of a cursor matters. -/
theorem of_eq (h : Compared expected output c) {d : Cursor} (hexpected : d.expected = c.expected)
    (hmismatches : d.mismatches = c.mismatches) (hcarry : d.carry = c.carry) :
    Compared expected output d := by
  refine ⟨⟨h.aligned.isLine, ?_, ?_⟩, ?_⟩
  · rw [hexpected]
    exact h.aligned.right
  · rw [hmismatches]
    exact h.aligned.wrong
  · rw [hcarry]
    exact h.carry

theorem splitLines_append (h : Compared expected output c) (data : Bytes) :
    splitLines (output ++ data) =
      ((splitLines output).1 ++ (splitLines (c.carry ++ data)).1,
        (splitLines (c.carry ++ data)).2) := by
  rw [h.carry]
  exact Bytes.splitLines_append output data

/-- No line was wrong if and only if the script begins with all of them. -/
theorem diverged_eq_false_iff (h : Compared expected output c) :
    c.diverged = false ↔ (splitLines output).1.flatten <+: expected := by
  rw [h.aligned.diverged_eq_false_iff, flatten_prefix_iff h.aligned.isLine]

/-- As long as no line was wrong, the lines so far and what is still expected are the script. -/
theorem flatten_append_expected (h : Compared expected output c) (hright : c.diverged = false) :
    (splitLines output).1.flatten ++ c.expected = expected := by
  have hlines := h.aligned.diverged_eq_false_iff.mp hright
  have hexpected := h.aligned.right
  rw [rightLines, commonPrefix_eq_left_iff.mpr hlines] at hexpected
  exact hexpected

/-- However it comes out, feeding gets through the first lines of all the output. -/
theorem feed_aligned (h : Compared expected output c) (k : Comparator) (data : Bytes)
    (echo : Sink) :
    ∃ seen rest, (splitLines (output ++ data)).1 = (splitLines output).1 ++ seen ++ rest ∧
      Aligned expected ((splitLines output).1 ++ seen) (k.compareCompleted c data echo).cursor ∧
      ((k.feed c data echo).flow = .more → rest = []) := by
  have halign : Aligned expected (splitLines output).1 { c with carry := [] } :=
    ⟨h.aligned.isLine, h.aligned.right, h.aligned.wrong⟩
  obtain ⟨seen, rest, hnext, hseen, hrest⟩ := compareLines_aligned k echo halign
    (splitLines_isLine (c.carry ++ data)).1
  refine ⟨seen, rest, ?_, hseen, ?_⟩
  · rw [h.splitLines_append data, hnext, List.append_assoc]
  · rw [feed_flow]
    exact hrest

/-- A comparison that is not stopped leaves the cursor where it belongs after all the output. -/
theorem feed_more (h : Compared expected output c) {k : Comparator} {data : Bytes} {echo : Sink}
    (hflow : (k.feed c data echo).flow = .more) :
    Compared expected (output ++ data) (k.feed c data echo).cursor := by
  obtain ⟨seen, rest, hlines, halign, hrest⟩ := h.feed_aligned k data echo
  rw [hrest hflow, List.append_nil] at hlines
  refine ⟨?_, ?_⟩
  · rw [hlines]
    refine ⟨halign.isLine, ?_, ?_⟩
    · rw [feed_expected]
      exact halign.right
    · rw [feed_mismatches]
      exact halign.wrong
  · rw [feed_carry_of_more k data echo hflow, h.splitLines_append data]

end Compared

/-! ### Until the cap is reached -/

/-- Feed pieces of output one after the other until one of them stops the comparison. Those after
it are given back. -/
def feedAll (k : Comparator) (c : Cursor) (echo : Sink) : List Bytes → Fed × List Bytes
  | [] => (⟨.more, c, echo⟩, [])
  | chunk :: chunks =>
    match (k.feed c chunk echo).flow with
    | .more => k.feedAll (k.feed c chunk echo).cursor (k.feed c chunk echo).echo chunks
    | _ => (k.feed c chunk echo, chunks)

theorem feedAll_cons_of_more {k : Comparator} {c : Cursor} {echo : Sink} {chunk : Bytes}
    (h : (k.feed c chunk echo).flow = .more) (chunks : List Bytes) :
    k.feedAll c echo (chunk :: chunks) =
      k.feedAll (k.feed c chunk echo).cursor (k.feed c chunk echo).echo chunks := by
  rw [feedAll, h]

theorem feedAll_cons_of_not_more {k : Comparator} {c : Cursor} {echo : Sink} {chunk : Bytes}
    (h : (k.feed c chunk echo).flow ≠ .more) (chunks : List Bytes) :
    k.feedAll c echo (chunk :: chunks) = (k.feed c chunk echo, chunks) := by
  rw [feedAll]
  split
  · next hmore => exact absurd hmore h
  · rfl

section FeedAll

variable {k : Comparator} {c : Cursor} {echo : Sink} {output : Bytes} {chunks : List Bytes}

/-- If nothing stops the comparison, the cursor belongs after all of the output. -/
theorem feedAll_more (h : Compared expected output c) (hsize : c.mismatches.size < k.cap)
    (hflow : (k.feedAll c echo chunks).1.flow = .more) :
    (k.feedAll c echo chunks).2 = [] ∧
      Compared expected (output ++ chunks.flatten) (k.feedAll c echo chunks).1.cursor ∧
      (k.feedAll c echo chunks).1.cursor.mismatches.size < k.cap := by
  induction chunks generalizing c echo output with
  | nil =>
    rw [List.flatten_nil, List.append_nil]
    exact ⟨rfl, h, hsize⟩
  | cons chunk chunks ih =>
    by_cases hmore : (k.feed c chunk echo).flow = .more
    · rw [feedAll_cons_of_more hmore] at hflow ⊢
      rw [List.flatten_cons, ← List.append_assoc]
      exact ih (h.feed_more hmore) (feed_size_lt k chunk echo hsize (by rw [hmore]; simp)) hflow
    · rw [feedAll_cons_of_not_more hmore] at hflow
      exact absurd hflow hmore

/-- If the cap stops the comparison, it does so in a piece before which it was not reached, and the
cursor belongs after lines that this piece completes. -/
theorem feedAll_stop (h : Compared expected output c) (hsize : c.mismatches.size < k.cap)
    (hflow : (k.feedAll c echo chunks).1.flow = .stop) :
    (k.feedAll c echo chunks).1.cursor.carry = [] ∧
      (k.feedAll c echo chunks).1.cursor.mismatches.size = k.cap ∧
      ∃ before last seen rest, chunks = before ++ last :: (k.feedAll c echo chunks).2 ∧
        (wrongLines expected (splitLines (output ++ before.flatten)).1).length < k.cap ∧
        (splitLines (output ++ (before ++ [last]).flatten)).1 = seen ++ rest ∧
        Aligned expected seen (k.feedAll c echo chunks).1.cursor := by
  induction chunks generalizing c echo output with
  | nil => exact absurd hflow (by simp [feedAll])
  | cons chunk chunks ih =>
    by_cases hmore : (k.feed c chunk echo).flow = .more
    · rw [feedAll_cons_of_more hmore] at hflow ⊢
      obtain ⟨hcarry, hcap, before, last, seen, rest, hchunks, hbefore, hlines, hseen⟩ :=
        ih (h.feed_more hmore) (feed_size_lt k chunk echo hsize (by rw [hmore]; simp)) hflow
      refine ⟨hcarry, hcap, chunk :: before, last, seen, rest, ?_, ?_, ?_, hseen⟩
      · rw [List.cons_append, ← hchunks]
      · rw [List.flatten_cons, ← List.append_assoc]
        exact hbefore
      · rw [List.cons_append, List.flatten_cons, ← List.append_assoc]
        exact hlines
    · -- This piece stops the comparison, and none was fed before it.
      rw [feedAll_cons_of_not_more hmore] at hflow ⊢
      obtain ⟨seen, rest, hlines, halign, -⟩ := h.feed_aligned k chunk echo
      refine ⟨feed_carry_of_not_more k chunk echo hmore, feed_size_eq k chunk echo hsize hflow,
        [], chunk, (splitLines output).1 ++ seen, rest, rfl, ?_, ?_, ?_⟩
      · rw [List.flatten_nil, List.append_nil, ← h.aligned.size_eq]
        exact hsize
      · rw [List.nil_append, List.flatten_singleton]
        exact hlines
      · refine ⟨halign.isLine, ?_, ?_⟩
        · rw [feed_expected]
          exact halign.right
        · rw [feed_mismatches]
          exact halign.wrong

/-- The pieces that were not fed any more could only add wrong lines to those that were looked at,
and the cap was reached in the piece that completes the last of these. -/
theorem feedAll_stop_lines (h : Compared expected output c) (hsize : c.mismatches.size < k.cap)
    (hflow : (k.feedAll c echo chunks).1.flow = .stop) :
    let lines := (splitLines (output ++ chunks.flatten)).1
    let fed := (k.feedAll c echo chunks).1
    (rightLines expected lines).flatten ++ fed.cursor.expected = expected ∧
      (∃ later, wrongLines expected lines = fed.cursor.mismatches.toList ++ later) ∧
      ∃ before last, chunks = before ++ last :: (k.feedAll c echo chunks).2 ∧
        (splitLines (output ++ before.flatten)).1.length <
          (rightLines expected lines).length + k.cap ∧
        (rightLines expected lines).length + k.cap ≤
          (splitLines (output ++ (before ++ [last]).flatten)).1.length := by
  intro lines fed
  obtain ⟨-, hcap, before, last, seen, rest, hchunks, hbefore, hlines, hseen⟩ :=
    feedAll_stop h hsize hflow
  have hpieces : output ++ chunks.flatten =
      output ++ (before ++ [last]).flatten ++ (k.feedAll c echo chunks).2.flatten := by
    rw [List.append_assoc, ← List.flatten_append, List.append_assoc, List.singleton_append,
      ← hchunks]
  have hbeforeLines : (splitLines (output ++ before.flatten)).1 <+: lines := by
    have hsplit : output ++ chunks.flatten = output ++ before.flatten ++
        (last :: (k.feedAll c echo chunks).2).flatten := by
      rw [List.append_assoc, ← List.flatten_append, ← hchunks]
    rw [show lines = (splitLines (output ++ chunks.flatten)).1 from rfl, hsplit]
    exact splitLines_prefix_append _ _
  obtain ⟨later, hlater⟩ : ∃ later, lines = seen ++ later := by
    obtain ⟨unread, hunread⟩ := splitLines_prefix_append
      (output ++ (before ++ [last]).flatten) (k.feedAll c echo chunks).2.flatten
    refine ⟨rest ++ unread, ?_⟩
    rw [← List.append_assoc, ← hlines, hunread, ← hpieces]
  -- The cap is not zero, so one of the lines seen was wrong, and then all later ones are.
  have hpos : 0 < fed.cursor.mismatches.size := by
    rw [hcap]
    exact Nat.zero_lt_of_lt hsize
  obtain ⟨hright, hwrong⟩ := hseen.append_of_wrong hpos later
  refine ⟨?_, ⟨later, ?_⟩, before, last, hchunks, ?_, ?_⟩
  · rw [hlater, hright]
    exact hseen.right
  · rw [hlater]
    exact hwrong
  · obtain ⟨next, hnext⟩ := hbeforeLines
    have hle := (rightLines_prefix_append expected
      (splitLines (output ++ before.flatten)).1 next).length_le
    have hsum := length_rightLines_add expected (splitLines (output ++ before.flatten)).1
    rw [hnext] at hle
    omega
  · have hsum := length_rightLines_add expected seen
    rw [← hseen.size_eq, hcap] at hsum
    rw [hlater, hright, hlines, List.length_append]
    omega

/-- What is echoed is what is dropped from the expected output, unless the sink refuses it. -/
theorem feedAll_echo (hflow : (k.feedAll c echo chunks).1.flow ≠ .echoFull) :
    ∃ dropped, (k.feedAll c echo chunks).1.echo.contents = echo.contents ++ dropped ∧
      dropped ++ (k.feedAll c echo chunks).1.cursor.expected = c.expected := by
  induction chunks generalizing c echo with
  | nil => exact ⟨[], (List.append_nil _).symm, rfl⟩
  | cons chunk chunks ih =>
    by_cases hmore : (k.feed c chunk echo).flow = .more
    · rw [feedAll_cons_of_more hmore] at hflow ⊢
      obtain ⟨first, hecho, hfirst⟩ := feed_dropped k c chunk echo (by rw [hmore]; simp)
      obtain ⟨later, hechoes, hlater⟩ := ih hflow
      refine ⟨first ++ later, ?_, ?_⟩
      · rw [hechoes, hecho, List.append_assoc]
      · rw [List.append_assoc, hlater, hfirst]
    · rw [feedAll_cons_of_not_more hmore] at hflow ⊢
      exact feed_dropped k c chunk echo hflow

theorem feedAll_unlimited (h : echo.room = none) :
    (k.feedAll c echo chunks).1.flow ≠ .echoFull := by
  induction chunks generalizing c echo with
  | nil => simp [feedAll]
  | cons chunk chunks ih =>
    obtain ⟨hflow, hroom⟩ := feed_unlimited k c chunk echo h
    by_cases hmore : (k.feed c chunk echo).flow = .more
    · rw [feedAll_cons_of_more hmore]
      exact ih hroom
    · rw [feedAll_cons_of_not_more hmore]
      exact hflow

/-- What was found at the end, whether or not the cap stopped the comparison before all of the
output was fed. -/
theorem feedAll_aligned (h : Compared expected output c) (hsize : c.mismatches.size < k.cap)
    (hflow : (k.feedAll c echo chunks).1.flow ≠ .echoFull) :
    let lines := (splitLines (output ++ chunks.flatten)).1
    let fed := (k.feedAll c echo chunks).1
    (rightLines expected lines).flatten ++ fed.cursor.expected = expected ∧
      fed.cursor.mismatches.toList = (wrongLines expected lines).take k.cap ∧
      (fed.flow = .stop ↔ k.cap ≤ (wrongLines expected lines).length) := by
  intro lines fed
  by_cases hstop : fed.flow = .stop
  · obtain ⟨hright, ⟨later, hwrong⟩, -⟩ := feedAll_stop_lines h hsize hstop
    have hlength : fed.cursor.mismatches.toList.length = k.cap := by
      rw [Array.length_toList, (feedAll_stop h hsize hstop).2.1]
    rw [hwrong]
    refine ⟨hright, (List.take_left' hlength).symm, fun _ => ?_, fun _ => hstop⟩
    rw [List.length_append, hlength]
    exact Nat.le_add_right _ _
  · have hmore : fed.flow = .more := by
      cases hf : fed.flow with
      | more => rfl
      | stop => exact absurd hf hstop
      | echoFull => exact absurd hf hflow
    obtain ⟨-, hcompared, hcap⟩ := feedAll_more h hsize hmore
    have hlength : (wrongLines expected lines).length < k.cap := by
      rw [← hcompared.aligned.size_eq]
      exact hcap
    refine ⟨hcompared.aligned.right, ?_, fun h => absurd h hstop, fun h => ?_⟩
    · rw [List.take_of_length_le (Nat.le_of_lt hlength)]
      exact hcompared.aligned.wrong
    · exact absurd hlength (Nat.not_lt_of_le h)

end FeedAll

/-- **The comparison finds the longest common prefix.** However output is cut into pieces, the lines
echoed and dropped are the longest common prefix of its lines and those of the script; the next
lines, up to the cap, are recorded as wrong; the comparison stops in the piece that completes the
last of these, and otherwise keeps what follows the last newline. -/
theorem feedAll_finds_longest_common_prefix (threshold : Nat) (input expected : Bytes)
    (pieces chunks : List Bytes) :
    let lines := (splitLines chunks.flatten).1
    let n := (commonPrefix lines (splitLines expected).1).length
    let cap := max threshold 1
    let sink : Sink := ⟨pieces, none⟩
    let fed := ((ofThreshold threshold).feedAll (.start input expected) sink chunks).1
    let unread := ((ofThreshold threshold).feedAll (.start input expected) sink chunks).2
    fed.echo.contents = sink.contents ++ (lines.take n).flatten ∧
    (lines.take n).flatten ++ fed.cursor.expected = expected ∧
    fed.cursor.mismatches.toList = (lines.drop n).take (min cap (lines.length - n)) ∧
    (fed.flow = .stop ↔ cap ≤ lines.length - n) ∧
    (fed.flow = .stop → fed.cursor.carry = [] ∧
      ∃ before last, chunks = before ++ last :: unread ∧
        (splitLines before.flatten).1.length < n + cap ∧
        n + cap ≤ (splitLines (before ++ [last]).flatten).1.length) ∧
    (fed.flow ≠ .stop → fed.flow = .more ∧ unread = [] ∧
      fed.cursor.carry = (splitLines chunks.flatten).2) := by
  intro lines n cap sink fed unread
  have hstart : Compared expected [] (.start input expected) := .start input expected
  have hsize : (Cursor.start input expected).mismatches.size < (ofThreshold threshold).cap :=
    cap_ofThreshold_pos threshold
  have hunlimited : fed.flow ≠ .echoFull := feedAll_unlimited rfl
  obtain ⟨hright, hwrong, hstop⟩ := feedAll_aligned hstart hsize hunlimited
  have htake : lines.take n = rightLines expected lines := take_length_rightLines expected lines
  refine ⟨?_, ?_, ?_, ?_, ?_, ?_⟩
  · obtain ⟨dropped, hecho, hdropped⟩ := feedAll_echo hunlimited
    rw [hecho, htake]
    exact congrArg _ (List.append_cancel_right (hdropped.trans hright.symm))
  · rw [htake]
    exact hright
  · have hcount : (wrongLines expected lines).length = lines.length - n :=
      length_wrongLines expected lines
    rw [← hcount]
    exact hwrong.trans List.take_eq_take_min
  · rw [hstop, length_wrongLines]
    rfl
  · intro h
    exact ⟨(feedAll_stop hstart hsize h).1, (feedAll_stop_lines hstart hsize h).2.2⟩
  · intro h
    have hmore : fed.flow = .more := by
      cases hf : fed.flow with
      | more => rfl
      | stop => exact absurd hf h
      | echoFull => exact absurd hf hunlimited
    obtain ⟨hunread, hcompared, -⟩ := feedAll_more hstart hsize hmore
    exact ⟨hmore, hunread, hcompared.carry⟩

end Comparator

end Rehearsal
