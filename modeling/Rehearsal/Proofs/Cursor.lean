import Rehearsal.Proofs.Comparison.Record
import Rehearsal.Proofs.Session.Run

/-!
# What is true of every cursor

A cursor has seven fields, and each thing that can be done to it changes some of them. What they
always say together is `Cursor.Within`: the cursor is somewhere in its script, with a chunk staged
that is at most a line, and what it keeps of the output is cut into lines.

An `Operation` is anything that is done to a cursor, with all that it depends on: a feed brings its
own comparator and its own sink. Every one of them keeps `Within` (`Within.operate`), so it holds
after any number of them, in any order (`Within.operateAll`). `operateAll_records` says what they
add up to on the side of the output. The main statement, `within_script_after_operations`, spells
all of this out.

A session does nothing else to its cursor (`Session.play_operates`), so whatever becomes of a
session, its cursor is within the script (`Session.play_within`).
-/

namespace Rehearsal

open Bytes

namespace Cursor

/-! ### What is staged -/

/-- Can `staged` be the chunk that is being sent, with `unstaged` after it? It has no newline but at
its end, and it ends with one unless it is the end of the input. -/
structure IsChunk (staged unstaged : Bytes) : Prop where
  newline_not_mem : newline ∉ staged.dropLast
  atEnd : staged ≠ [] → staged.getLast? = some newline ∨ unstaged = []

namespace IsChunk

variable {staged unstaged : Bytes}

theorem nil (unstaged : Bytes) : IsChunk [] unstaged := ⟨List.not_mem_nil, fun h => absurd rfl h⟩

theorem of_splitFirstLine (data : Bytes) :
    IsChunk (splitFirstLine data).1 (splitFirstLine data).2 := by
  rcases exists_line_or_not_mem data with ⟨line, rest, hline, rfl⟩ | hnone
  · rw [splitFirstLine_line_append hline]
    refine ⟨?_, fun _ => .inl hline.getLast?⟩
    obtain ⟨body, hbody, rfl⟩ := hline
    rw [List.dropLast_concat]
    exact hbody
  · rw [splitFirstLine_of_not_mem hnone]
    exact ⟨fun hmem => hnone ((List.dropLast_sublist data).subset hmem), fun _ => .inr rfl⟩

/-- What is left of a chunk is a chunk. -/
theorem drop (h : IsChunk staged unstaged) (n : Nat) : IsChunk (staged.drop n) unstaged := by
  by_cases hall : staged.length ≤ n
  · rw [List.drop_eq_nil_of_le hall]
    exact nil unstaged
  · -- The end stays the same, and there was no newline anywhere before it.
    have hne : staged.drop n ≠ [] := by simpa using hall
    have hlast : (staged.drop n).getLast? = staged.getLast? := by
      rw [List.getLast?_drop, if_neg hall]
    have hinit : staged.dropLast = staged.take n ++ (staged.drop n).dropLast := by
      rw [← List.dropLast_append_of_ne_nil hne, List.take_append_drop]
    refine ⟨fun hmem => h.newline_not_mem ?_, fun _ => ?_⟩
    · rw [hinit]
      exact List.mem_append_right _ hmem
    · rw [hlast]
      refine h.atEnd ?_
      rintro rfl
      exact hall (Nat.zero_le n)

end IsChunk

/-! ### Within a script -/

/-- The cursor has come some way through the script of `input` and `expected`, the latter in whole
lines, and it holds bytes only as they should be held: at most a line staged, no newline in the
unfinished line, and a whole line wherever one was wrong. -/
structure Within (input expected : Bytes) (c : Cursor) : Prop where
  input : c.remainingInput <:+ input
  expected : ∃ lines : List Bytes,
    (∀ line ∈ lines, IsLine line) ∧ lines.flatten ++ c.expected = expected
  staged : IsChunk c.staged c.unstaged
  carry : newline ∉ c.carry
  mismatches : ∀ line ∈ c.mismatches.toList, IsLine line

namespace Within

variable {input expected : Bytes} {c d : Cursor}

theorem start (input expected : Bytes) : Within input expected (.start input expected) where
  input := List.suffix_refl input
  expected := ⟨[], by simp, rfl⟩
  staged := .nil _
  carry := List.not_mem_nil
  mismatches := by simp

theorem stage (h : Within input expected c) (hstage : c.stage? = some d) :
    Within input expected d := by
  obtain ⟨-, hsplit⟩ := splitFirstLine_of_stage? hstage
  have hchunk := IsChunk.of_splitFirstLine c.remainingInput
  rw [hsplit] at hchunk
  have hinput : d.remainingInput <:+ input := by
    rw [remainingInput_stage hstage]
    exact h.input
  have hframe := stage?_eq_some hstage
  refine ⟨hinput, ?_, hchunk, ?_, ?_⟩
  · rw [hframe]
    exact h.expected
  · rw [hframe]
    exact h.carry
  · rw [hframe]
    exact h.mismatches

theorem consumeInput (h : Within input expected c) (n : Nat) :
    Within input expected (c.consumeInput n) := by
  have hinput : (c.consumeInput n).remainingInput <:+ c.remainingInput :=
    ⟨c.sent n, sent_append_remainingInput c n⟩
  exact { h with input := hinput.trans h.input, staged := h.staged.drop n }

/-- New output moves the cursor on by whole lines, however the comparison comes out. -/
theorem feed (h : Within input expected c) (k : Comparator) (data : Bytes) (echo : Sink) :
    Within input expected (k.feed c data echo).cursor := by
  obtain ⟨right, wrong, rest, hlines, hrecords⟩ := k.feed_records c echo data
  have hline : ∀ line ∈ right ++ wrong, IsLine line := fun line hmem =>
    isLine_of_mem_splitLines (hlines ▸ List.mem_append_left rest hmem)
  have hframe := k.feed_frame c data echo
  refine ⟨?_, ?_, ?_, ?_, ?_⟩
  · rw [hframe]
    exact h.input
  · obtain ⟨lines, hdropped, hexpected⟩ := h.expected
    refine ⟨lines ++ right, fun line hmem => ?_, ?_⟩
    · rcases List.mem_append.mp hmem with hmem | hmem
      · exact hdropped line hmem
      · exact hline line (List.mem_append_left wrong hmem)
    · rw [List.flatten_append, List.append_assoc, hrecords.expected, hexpected]
  · rw [hframe]
    exact h.staged
  · -- What is unfinished is kept only if the comparison went through.
    by_cases hmore : (k.feed c data echo).flow = .more
    · rw [k.feed_carry_of_more data echo hmore]
      exact (splitLines_isLine (c.carry ++ data)).2
    · rw [k.feed_carry_of_not_more data echo hmore]
      exact List.not_mem_nil
  · intro line hmem
    rw [hrecords.mismatches] at hmem
    rcases List.mem_append.mp hmem with hmem | hmem
    · exact h.mismatches line hmem
    · exact hline line (List.mem_append_right right hmem)

theorem dropped (h : Within input expected c) :
    ∃ dropped, dropped ++ c.expected = expected ∧
      (dropped = [] ∨ dropped.getLast? = some newline) := by
  obtain ⟨lines, hlines, hexpected⟩ := h.expected
  refine ⟨lines.flatten, hexpected, eq_nil_or_getLast?_of_rest_eq_nil ?_⟩
  have hsplit := splitLines_lines_append hlines []
  rw [List.append_nil] at hsplit
  rw [hsplit, splitLines_nil]

end Within

/-! ### Operations -/

/-- What can be done to a cursor. -/
inductive Operation where
  /-- Stage the next line of the input, if there is one. -/
  | stage
  /-- So many bytes of the staged chunk were taken. -/
  | consumeInput (count : Nat)
  /-- Output arrived, and this comparator and this sink deal with it. -/
  | feed (k : Comparator) (data : Bytes) (echo : Sink)
  /-- The program's input was closed. -/
  | closeInput
  /-- Error output arrived. -/
  | noteErrorOutput

/-- The cursor after an operation, whether or not that was cut short. -/
def operate (c : Cursor) : Operation → Cursor
  | .stage => c.stage?.getD c
  | .consumeInput count => c.consumeInput count
  | .feed k data echo => (k.feed c data echo).cursor
  | .closeInput => { c with inputClosed := true }
  | .noteErrorOutput => { c with sawError := true }

/-- The cursor after operations, one after the other. -/
def operateAll (c : Cursor) (ops : List Operation) : Cursor := ops.foldl operate c

variable {input expected : Bytes} {c : Cursor} {op : Operation} {ops : List Operation}

theorem Within.operate (h : Within input expected c) (op : Operation) :
    Within input expected (c.operate op) := by
  cases op with
  | stage =>
    rw [Cursor.operate]
    cases hstage : c.stage? with
    | none => exact h
    | some d => exact h.stage hstage
  | consumeInput count => exact h.consumeInput count
  | feed k data echo => exact h.feed k data echo
  | closeInput | noteErrorOutput => exact { h with }

theorem Within.operateAll (h : Within input expected c) (ops : List Operation) :
    Within input expected (c.operateAll ops) := by
  induction ops generalizing c with
  | nil => exact h
  | cons op ops ih => exact ih (h.operate op)

theorem operate_records (c : Cursor) (op : Operation) :
    ∃ right wrong, c.Records right wrong (c.operate op) := by
  cases op with
  | stage =>
    rw [operate]
    cases hstage : c.stage? with
    | none => exact ⟨[], [], .of_eq rfl rfl⟩
    | some d =>
      rw [stage?_eq_some hstage]
      exact ⟨[], [], .of_eq rfl rfl⟩
  | feed k data echo =>
    obtain ⟨right, wrong, -, -, h⟩ := k.feed_records c echo data
    exact ⟨right, wrong, h⟩
  | consumeInput | closeInput | noteErrorOutput => exact ⟨[], [], .of_eq rfl rfl⟩

/-- Whatever is done to a cursor, to what it expects and has found wrong it does what some lines of
output do. -/
theorem operateAll_records (c : Cursor) (ops : List Operation) :
    ∃ right wrong, c.Records right wrong (c.operateAll ops) := by
  induction ops generalizing c with
  | nil => exact ⟨[], [], .of_eq rfl rfl⟩
  | cons op ops ih =>
    obtain ⟨right, wrong, h⟩ := operate_records c op
    obtain ⟨right', wrong', h'⟩ := ih (c.operate op)
    exact ⟨right ++ right', wrong ++ wrong', h.trans h'⟩

/-- Without error output, something wrong was seen if and only if a line was wrong. -/
theorem sawError_operateAll (hquiet : .noteErrorOutput ∉ ops) (h : c.sawError = c.diverged) :
    (c.operateAll ops).sawError = (c.operateAll ops).diverged := by
  induction ops generalizing c with
  | nil => exact h
  | cons op ops ih =>
    rw [List.mem_cons, not_or] at hquiet
    refine ih hquiet.2 ?_
    cases op with
    | stage =>
      rw [operate]
      cases hstage : c.stage? with
      | none => exact h
      | some d =>
        rw [stage?_eq_some hstage]
        exact h
    | feed k data echo => exact k.sawError_feed c echo data h
    | consumeInput | closeInput => exact h
    | noteErrorOutput => exact absurd rfl hquiet.1

/-- **Where operations leave a cursor.** Whatever is done to a cursor, and in whatever order: what
it has left are ends of the input and of the expected output, the latter cut off after a newline;
what is staged is the front of the input left, at most a line, and ends in a newline or is all that
is left; the unfinished line has no newline; what is recorded as wrong are whole lines; without
error output, something wrong was seen if and only if a line was wrong; and whatever is done after
that, wrong lines are only added, and once there is one, what is expected stays the same. -/
theorem within_script_after_operations (input expected : Bytes) (ops later : List Operation) :
    let c := (start input expected).operateAll ops
    let d := c.operateAll later
    c.remainingInput <:+ input ∧
    (∃ dropped, dropped ++ c.expected = expected ∧
      (dropped = [] ∨ dropped.getLast? = some newline)) ∧
    (c.staged <+: c.remainingInput ∧ newline ∉ c.staged.dropLast ∧
      (c.staged ≠ [] → c.staged.getLast? = some newline ∨ c.staged = c.remainingInput)) ∧
    newline ∉ c.carry ∧
    (∀ line ∈ c.mismatches.toList, ∃ body, newline ∉ body ∧ line = body ++ [newline]) ∧
    (.noteErrorOutput ∉ ops → (c.sawError = true ↔ c.mismatches ≠ #[])) ∧
    (∃ more, d.mismatches.toList = c.mismatches.toList ++ more) ∧
    (c.mismatches ≠ #[] → d.expected = c.expected) := by
  intro c d
  have hwithin : Within input expected c := (Within.start input expected).operateAll ops
  obtain ⟨right, wrong, hrecords⟩ := operateAll_records c later
  refine ⟨hwithin.input, hwithin.dropped, ⟨List.prefix_append _ _,
    hwithin.staged.newline_not_mem, fun hne => ?_⟩, hwithin.carry, hwithin.mismatches,
    fun hquiet => ?_, ⟨wrong, hrecords.mismatches⟩, fun hwrong => ?_⟩
  · rcases hwithin.staged.atEnd hne with hlast | hnone
    · exact .inl hlast
    · right
      rw [remainingInput, hnone, List.append_nil]
  · rw [sawError_operateAll hquiet rfl, diverged_iff_ne_empty]
  · obtain rfl : right = [] := hrecords.right_nil (diverged_iff_ne_empty.mpr hwrong)
    exact hrecords.expected_eq

end Cursor

/-! ### The cursor of a session -/

namespace Session

open Cursor (Operation Within)

variable {k : Comparator} {s t : Session} {e : Event} {ending : Ending} {failure : Failure}

theorem Moves.operates (h : Moves k s e t) :
    ∃ ops : List Operation, t.cursor = s.cursor.operateAll ops := by
  cases h with
  | @output chunk => exact ⟨[.feed k chunk s.echo], rfl⟩
  | @accepted count => exact ⟨[.consumeInput count], rfl⟩
  | stages hout herr hpending hright hstage =>
    refine ⟨[.stage], ?_⟩
    rw [Cursor.operateAll, List.foldl_cons, List.foldl_nil, Cursor.operate, hstage,
      Option.getD_some]
  | closesInput => exact ⟨[.closeInput], rfl⟩
  | outputEnd | errorEnd | waitsForInput | waitsForOutput => exact ⟨[], rfl⟩

theorem Stops.operates (h : Stops k s e ending t) :
    ∃ ops : List Operation, t.cursor = s.cursor.operateAll ops := by
  cases h with
  | @mismatchCap chunk => exact ⟨[.feed k chunk s.echo], rfl⟩
  | errorOutput => exact ⟨[.noteErrorOutput], rfl⟩
  | unterminated | outputEnd | errorEnd | acceptsNothing | refused | quiet | diverged =>
    exact ⟨[], rfl⟩

theorem Fails.operates (h : Fails k s e failure t) :
    ∃ ops : List Operation, t.cursor = s.cursor.operateAll ops := by
  cases h with
  | @output chunk => exact ⟨[.feed k chunk s.echo], rfl⟩
  | @input count => exact ⟨[.consumeInput count], rfl⟩
  | broken => exact ⟨[], rfl⟩

theorem step_operates (k : Comparator) (s : Session) (e : Event) :
    ∃ ops : List Operation, (s.step k e).session.cursor = s.cursor.operateAll ops := by
  rcases step_session_spec k s e with hmoves | ⟨ending, hstops⟩ | ⟨failure, hfails⟩
  · exact hmoves.operates
  · exact hstops.operates
  · exact hfails.operates

/-- A session does nothing to its cursor that is not an operation on cursors. -/
theorem play_operates (k : Comparator) (s : Session) (events : List Event) :
    ∃ ops : List Operation, (s.play k events).session.cursor = s.cursor.operateAll ops := by
  refine play_induction
    (motive := fun s _ t => ∃ ops : List Operation, t.cursor = s.cursor.operateAll ops)
    (fun s => ⟨[], rfl⟩) ?_ s events
  rintro s e trail t ⟨later, hlater⟩
  obtain ⟨ops, hops⟩ := step_operates k s e
  refine ⟨ops ++ later, ?_⟩
  rw [hlater, hops, Cursor.operateAll, Cursor.operateAll, Cursor.operateAll, List.foldl_append]

/-- Whether a session is still waiting, has ended or has failed, its cursor is within the script. -/
theorem play_within (k : Comparator) (input expected : Bytes) (echo : Sink) (events : List Event) :
    Within input expected ((start input expected echo).play k events).session.cursor := by
  obtain ⟨ops, hops⟩ := play_operates k (start input expected echo) events
  rw [hops]
  exact (Within.start input expected).operateAll ops

end Session

end Rehearsal
