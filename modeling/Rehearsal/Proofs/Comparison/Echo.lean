import Rehearsal.Proofs.Comparison

/-!
# What a comparison echoes, and how a full sink cuts it short

The lines that new output completes are compared with what is still expected, and those that are
right are echoed (`nextRight`): the longest common prefix of the two, or nothing if a line was wrong
before. With a sink without a limit this is all there is to say (`feed_echo_eq`).

A sink that has room for so many bytes changes nothing as long as what is echoed fits
(`feed_withRoom_of_le`). If it does not, the comparison breaks off in the first line that does not
fit (`BreaksOff`). The sink is left with the first bytes of what was to be echoed, and the lines
before that one, but not the line itself, are dropped from the expected output
(`feed_withRoom_of_lt`).
-/

namespace Rehearsal

/-! ### Sinks with and without room -/

namespace Sink

/-- The sink after a write for which there was room. -/
def push (s : Sink) (data : Bytes) : Sink := { s with pieces := data :: s.pieces }

/-- The same sink with room for so many bytes. -/
def withRoom (s : Sink) (room : Nat) : Sink := { s with room := some room }

@[simp] theorem contents_push (s : Sink) (data : Bytes) :
    (s.push data).contents = s.contents ++ data := by
  simp [push, contents]

@[simp] theorem contents_withRoom (s : Sink) (room : Nat) :
    (s.withRoom room).contents = s.contents := rfl

theorem write_of_room_eq_none {s : Sink} (h : s.room = none) (data : Bytes) :
    s.write data = .ok (s.push data) := by
  simp [write, push, h]

theorem write_withRoom_of_le (s : Sink) {data : Bytes} {room : Nat} (h : data.length ≤ room) :
    (s.withRoom room).write data = .ok ((s.push data).withRoom (room - data.length)) := by
  simp [write, withRoom, push, h]

theorem write_withRoom_of_lt (s : Sink) {data : Bytes} {room : Nat} (h : room < data.length) :
    (s.withRoom room).write data = .error ((s.push (data.take room)).withRoom 0) := by
  simp [write, withRoom, push, Nat.not_le_of_lt h]

end Sink

/-- Where a list breaks off if there is room for so many bytes: the elements of `done` fit, and with
the next one there are too many. -/
structure BreaksOff {α : Type} (bytes : α → Bytes) (all : List α) (room : Nat) (done : List α)
    (next : α) : Prop where
  begins : done ++ [next] <+: all
  fits : (done.flatMap bytes).length ≤ room
  full : room < ((done ++ [next]).flatMap bytes).length

namespace BreaksOff

variable {α : Type} {bytes : α → Bytes} {all done : List α} {room : Nat} {next : α}

/-- The first element does not fit. -/
theorem first (h : room < (bytes next).length) (later : List α) :
    BreaksOff bytes (next :: later) room [] next :=
  ⟨⟨later, rfl⟩, Nat.zero_le _, by simpa using h⟩

/-- The elements in front fit, and the others break off with the room that is left. -/
theorem append_left {front : List α} (hfront : (front.flatMap bytes).length ≤ room)
    (h : BreaksOff bytes all (room - (front.flatMap bytes).length) done next) :
    BreaksOff bytes (front ++ all) room (front ++ done) next := by
  obtain ⟨hbegins, hfits, hfull⟩ := h
  refine ⟨?_, ?_, ?_⟩
  · rw [List.append_assoc]
    exact (List.prefix_append_right_inj front).mpr hbegins
  · rw [List.flatMap_append, List.length_append]
    omega
  · rw [List.append_assoc, List.flatMap_append, List.length_append]
    omega

theorem cons {a : α} (ha : (bytes a).length ≤ room)
    (h : BreaksOff bytes all (room - (bytes a).length) done next) :
    BreaksOff bytes (a :: all) room (a :: done) next := by
  have hsingle : [a].flatMap bytes = bytes a := by simp
  rw [← hsingle] at ha h
  exact h.append_left ha

theorem append_right (h : BreaksOff bytes all room done next) (later : List α) :
    BreaksOff bytes (all ++ later) room done next :=
  ⟨h.begins.trans (List.prefix_append _ _), h.fits, h.full⟩

theorem map {β : Type} {bytes' : β → Bytes} (f : α → β) (hbytes : ∀ a, bytes' (f a) = bytes a)
    (h : BreaksOff bytes all room done next) :
    BreaksOff bytes' (all.map f) room (done.map f) (f next) := by
  have hflat : ∀ l : List α, (l.map f).flatMap bytes' = l.flatMap bytes := by
    intro l
    simp only [List.flatMap_map, hbytes]
  refine ⟨?_, ?_, ?_⟩
  · rw [← List.map_singleton, ← List.map_append]
    exact h.begins.map f
  · rw [hflat]
    exact h.fits
  · rw [← List.map_singleton, ← List.map_append, hflat]
    exact h.full

/-- The elements that fit are kept whole. -/
theorem flatMap_prefix_take (h : BreaksOff bytes all room done next) :
    done.flatMap bytes <+: (all.flatMap bytes).take room := by
  obtain ⟨later, hlater⟩ := h.begins
  rw [← hlater, List.append_assoc, List.flatMap_append, List.take_append,
    List.take_of_length_le h.fits]
  exact List.prefix_append _ _

/-- There was no room for all of them. -/
theorem room_lt (h : BreaksOff bytes all room done next) : room < (all.flatMap bytes).length := by
  obtain ⟨later, hlater⟩ := h.begins
  have hfull := h.full
  rw [← hlater, List.flatMap_append, List.length_append]
  omega

end BreaksOff

/-- The same state with room for so many bytes in the sink. -/
def Fed.withRoom (fed : Fed) (room : Nat) : Fed := { fed with echo := fed.echo.withRoom room }

namespace Comparator

open Bytes

/-! ### The lines that are right -/

/-- The right ones of the lines that come next: those with which the expected output goes on, if no
line was wrong before. -/
def nextRight (c : Cursor) (lines : List Bytes) : List Bytes :=
  if c.diverged then [] else rightLines c.expected lines

section NextRight

variable {c : Cursor} {line : Bytes} {lines : List Bytes}

@[simp] theorem nextRight_nil (c : Cursor) : nextRight c [] = [] := by
  simp [nextRight, rightLines]

theorem nextRight_of_diverged (h : c.diverged = true) (lines : List Bytes) :
    nextRight c lines = [] :=
  if_pos h

theorem nextRight_cons_of_accepts (hline : IsLine line) (h : accepts c line = true)
    (lines : List Bytes) :
    nextRight c (line :: lines) = line :: nextRight (c.consumeExpected line) lines := by
  have hexpected := append_expected_of_accepts h
  rw [accepts, Bool.and_eq_true, Bool.not_eq_true'] at h
  have hright : (c.consumeExpected line).diverged = false := h.1
  rw [nextRight, nextRight, h.1, hright, rightLines, ← hexpected, splitLines_line_append hline,
    commonPrefix, if_pos rfl]
  rfl

theorem nextRight_cons_of_not_accepts (h : ¬ accepts c line = true) (lines : List Bytes) :
    nextRight c (line :: lines) = [] := by
  cases hdiverged : c.diverged with
  | true => exact nextRight_of_diverged hdiverged _
  | false =>
    -- The next line of the script is another one, or there is none.
    rw [nextRight, hdiverged, rightLines]
    have hflat := flatten_splitLines c.expected
    cases hscript : (splitLines c.expected).1 with
    | nil => simp
    | cons first script =>
      rw [hscript, List.flatten_cons, List.append_assoc] at hflat
      have hne : line ≠ first := by
        rintro rfl
        refine h ?_
        rw [accepts, hdiverged, List.isPrefixOf_iff_prefix.mpr ⟨_, hflat⟩]
        rfl
      simp [commonPrefix, hne]

theorem nextRight_addMismatch (c : Cursor) (line : Bytes) (lines : List Bytes) :
    nextRight (c.addMismatch line) lines = [] := by
  refine nextRight_of_diverged ?_ lines
  rw [Cursor.diverged_iff, Cursor.mismatches_addMismatch]
  simp

/-- The right ones of all lines are those of the first lines and, if none was wrong, those that come
next. -/
theorem Aligned.rightLines_append {expected : Bytes} (h : Aligned expected lines c)
    (next : List Bytes) :
    rightLines expected (lines ++ next) = rightLines expected lines ++ nextRight c next := by
  cases hdiverged : c.diverged with
  | true =>
    have hwrong : wrongLines expected lines ≠ [] := by
      rw [← h.wrong]
      exact Cursor.diverged_iff.mp hdiverged
    rw [rightLines_append_of_wrong hwrong, nextRight_of_diverged hdiverged, List.append_nil]
  | false =>
    have hlines : rightLines expected lines = lines :=
      commonPrefix_eq_left_iff.mpr (h.diverged_eq_false_iff.mp hdiverged)
    have hscript : (splitLines expected).1 = lines ++ (splitLines c.expected).1 := by
      have hright := h.right
      rw [hlines] at hright
      rw [← hright, splitLines_lines_append h.isLine]
    rw [hlines, nextRight, hdiverged, rightLines, hscript, commonPrefix_append_append]
    rfl

end NextRight

/-! ### Line by line -/

section Lines

variable (k : Comparator) {c : Cursor} {echo : Sink} {lines : List Bytes} {room : Nat}

/-- What is dropped from the expected output are the right lines. -/
theorem nextRight_append_expected (hlines : ∀ line ∈ lines, IsLine line)
    (hflow : (k.compareLines c echo lines).flow ≠ .echoFull) :
    (nextRight c lines).flatten ++ (k.compareLines c echo lines).cursor.expected = c.expected := by
  induction lines generalizing c echo with
  | nil => simp [compareLines]
  | cons line lines ih =>
    obtain ⟨hline, hlater⟩ := List.forall_mem_cons.mp hlines
    rw [compareLines] at hflow ⊢
    split at hflow
    · next haccepts =>
      rw [if_pos haccepts, nextRight_cons_of_accepts hline haccepts]
      cases hwrite : echo.write line with
      | error full => simp [hwrite] at hflow
      | ok echoed =>
        rw [hwrite] at hflow
        dsimp only
        rw [List.flatten_cons, List.append_assoc, ih hlater hflow,
          append_expected_of_accepts haccepts]
    · next haccepts =>
      rw [if_neg haccepts, nextRight_cons_of_not_accepts haccepts]
      dsimp only at hflow ⊢
      split at hflow
      · next hcap =>
        rw [if_pos hcap]
        rfl
      · next hcap =>
        have hrest := ih hlater hflow
        rw [nextRight_addMismatch] at hrest
        rw [if_neg hcap]
        exact hrest

/-- As long as the right lines fit, it makes no difference that the room for them is limited. -/
theorem compareLines_withRoom_of_le (hopen : echo.room = none)
    (hlines : ∀ line ∈ lines, IsLine line)
    (hfits : (nextRight c lines).flatten.length ≤ room) :
    k.compareLines c (echo.withRoom room) lines =
      (k.compareLines c echo lines).withRoom (room - (nextRight c lines).flatten.length) := by
  induction lines generalizing c echo room with
  | nil => simp [compareLines, Fed.withRoom]
  | cons line lines ih =>
    obtain ⟨hline, hlater⟩ := List.forall_mem_cons.mp hlines
    rw [compareLines, compareLines]
    split
    · next haccepts =>
      rw [nextRight_cons_of_accepts hline haccepts, List.flatten_cons,
        List.length_append] at hfits ⊢
      rw [Sink.write_of_room_eq_none hopen, Sink.write_withRoom_of_le echo (by omega),
        Nat.sub_add_eq]
      exact ih hopen hlater (by omega)
    · next haccepts =>
      rw [nextRight_cons_of_not_accepts haccepts] at hfits ⊢
      dsimp only
      split
      · rfl
      · rw [← nextRight_addMismatch c line lines] at hfits ⊢
        exact ih hopen hlater hfits

/-- If they do not, the comparison breaks off in the first of them that does not fit. -/
theorem compareLines_withRoom_of_lt (hopen : echo.room = none)
    (hlines : ∀ line ∈ lines, IsLine line)
    (hfull : room < (nextRight c lines).flatten.length) :
    (k.compareLines c (echo.withRoom room) lines).flow = .echoFull ∧
      (k.compareLines c (echo.withRoom room) lines).echo.contents =
        echo.contents ++ (nextRight c lines).flatten.take room ∧
      ∃ done next, BreaksOff id (nextRight c lines) room done next ∧
        done.flatten ++ (k.compareLines c (echo.withRoom room) lines).cursor.expected =
          c.expected := by
  induction lines generalizing c echo room with
  | nil => simp at hfull
  | cons line lines ih =>
    obtain ⟨hline, hlater⟩ := List.forall_mem_cons.mp hlines
    rw [compareLines]
    split
    · next haccepts =>
      rw [nextRight_cons_of_accepts hline haccepts] at hfull ⊢
      rw [List.flatten_cons] at hfull ⊢
      by_cases hfits : line.length ≤ room
      · -- The line fits, and one of the later lines does not fit in the room that is left.
        have hlaterFull : room - line.length <
            (nextRight (c.consumeExpected line) lines).flatten.length := by
          rw [List.length_append] at hfull
          omega
        have hlaterOpen : (echo.push line).room = none := hopen
        obtain ⟨hflow, hcontents, done, next, hbreaks, hexpected⟩ := ih hlaterOpen hlater hlaterFull
        rw [Sink.write_withRoom_of_le echo hfits]
        refine ⟨hflow, ?_, line :: done, next, hbreaks.cons hfits, ?_⟩
        · dsimp only
          rw [hcontents, Sink.contents_push, List.append_assoc, List.take_append,
            List.take_of_length_le hfits]
        · dsimp only
          rw [List.flatten_cons, List.append_assoc, hexpected, append_expected_of_accepts haccepts]
      · -- The first bytes of the line are written, and it stays in the expected output.
        have hlong : room < line.length := Nat.lt_of_not_le hfits
        rw [Sink.write_withRoom_of_lt echo hlong]
        refine ⟨rfl, ?_, [], line, .first hlong _, rfl⟩
        dsimp only
        rw [Sink.contents_withRoom, Sink.contents_push,
          List.take_append_of_le_length (Nat.le_of_lt hlong)]
    · next haccepts =>
      rw [nextRight_cons_of_not_accepts haccepts] at hfull
      cases hfull

end Lines

/-! ### Piece by piece -/

/-- The right ones of the lines that new output completes. -/
def feedRight (c : Cursor) (data : Bytes) : List Bytes :=
  nextRight c (splitLines (c.carry ++ data)).1

section Feed

variable (k : Comparator) {c : Cursor} {data : Bytes} {echo : Sink} {room : Nat}

theorem feedRight_append_expected (hflow : (k.feed c data echo).flow ≠ .echoFull) :
    (feedRight c data).flatten ++ (k.feed c data echo).cursor.expected = c.expected := by
  rw [feed_flow] at hflow
  rw [feed_expected]
  exact nextRight_append_expected k (c := { c with carry := [] }) (splitLines_isLine _).1 hflow

/-- What is echoed are the right lines. -/
theorem feed_echo_eq (hflow : (k.feed c data echo).flow ≠ .echoFull) :
    (k.feed c data echo).echo.contents = echo.contents ++ (feedRight c data).flatten := by
  obtain ⟨dropped, hecho, hdropped⟩ := feed_dropped k c data echo hflow
  rw [hecho, List.append_cancel_right (hdropped.trans (feedRight_append_expected k hflow).symm)]

theorem feed_withRoom_of_le (hopen : echo.room = none)
    (hfits : (feedRight c data).flatten.length ≤ room) :
    k.feed c data (echo.withRoom room) =
      (k.feed c data echo).withRoom (room - (feedRight c data).flatten.length) := by
  have hlines : k.compareCompleted c data (echo.withRoom room) =
      (k.compareCompleted c data echo).withRoom (room - (feedRight c data).flatten.length) :=
    compareLines_withRoom_of_le k (c := { c with carry := [] }) hopen (splitLines_isLine _).1 hfits
  rw [feed_eq, feed_eq, hlines]
  rfl

theorem feed_withRoom_of_lt (hopen : echo.room = none)
    (hfull : room < (feedRight c data).flatten.length) :
    (k.feed c data (echo.withRoom room)).flow = .echoFull ∧
      (k.feed c data (echo.withRoom room)).echo.contents =
        echo.contents ++ (feedRight c data).flatten.take room ∧
      ∃ done next, BreaksOff id (feedRight c data) room done next ∧
        done.flatten ++ (k.feed c data (echo.withRoom room)).cursor.expected = c.expected := by
  rw [feed_flow, feed_echo, feed_expected]
  exact compareLines_withRoom_of_lt k (c := { c with carry := [] }) hopen (splitLines_isLine _).1
    hfull

end Feed

end Comparator

end Rehearsal
