import Rehearsal.Proofs.Judgement
import Rehearsal.Proofs.Session.Verdict

/-!
# What a mismatch report shows

A comparison that has come to a wrong line drops nothing more of what is expected. So what is
expected when the session ends is what was expected when the first wrong line came, and the report
sets the two side by side (`Runner.mismatchReport_spec`): the first wrong line is not what is
expected next, and it does not look the same either, if both are text.

A session is stopped by as many wrong lines as make a report cut. So if it was stopped for that
reason as many are shown as the limits say, and if it ended otherwise all of them are
(`Run.shownMismatches_spec`). Both use the sum of the same two limits: the comparator is made with
it, so where there is a run, the sum is a number of 64 bits.
-/

namespace Rehearsal

open Bytes

/-! ### The first wrong line -/

namespace Comparator

variable {expected : Bytes} {lines : List Bytes} {c : Cursor} {first : Bytes} {later : List Bytes}

/-- What is still expected does not begin with the first wrong line. -/
theorem Aligned.not_prefix_of_wrong (h : Aligned expected lines c)
    (hwrong : c.mismatches.toList = first :: later) : ¬ first <+: c.expected := by
  rw [h.wrong] at hwrong
  have hsplit : rightLines expected lines ++ first :: later = lines := by
    rw [← hwrong]
    exact rightLines_append_wrongLines expected lines
  have hfront : rightLines expected lines ++ [first] <+: lines := by
    refine ⟨later, ?_⟩
    rw [List.append_assoc, List.singleton_append, hsplit]
  intro hle
  -- Then the script would begin with that line as well, and it would have been right.
  have hscript : rightLines expected lines ++ [first] <+: (splitLines expected).1 := by
    have hflat : (rightLines expected lines).flatten ++ first <+: expected := by
      obtain ⟨rest, hrest⟩ := hle
      refine ⟨rest, ?_⟩
      rw [List.append_assoc, hrest, h.right]
    rw [← flatten_prefix_iff (fun line hline => h.isLine line (hfront.subset hline)),
      List.flatten_concat]
    exact hflat
  have hright : rightLines expected lines ++ [first] <+: rightLines expected lines :=
    prefix_commonPrefix_iff.mpr ⟨hfront, hscript⟩
  have hlength := hright.length_le
  rw [List.length_append, List.length_singleton] at hlength
  omega

end Comparator

namespace Session

open Judgement Comparator

variable {k : Comparator} {input expected : Bytes} {echo : Sink} {events : List Event}
variable {ending : Ending} {s : Session}

/-- However a run ends, the cursor is where it belongs after the first lines of the output. -/
theorem Run.aligned (h : Run k (.start input expected echo) events ending s) :
    ∃ seen rest, (splitLines (outputRead events)).1 = seen ++ rest ∧
      Aligned expected seen s.cursor := by
  by_cases hending : ending = .mismatchCap
  · subst hending
    rcases h.cut_or_stopped with ⟨limit, hcut, -⟩ | ⟨past, e, u, rfl, hu, -, hstops⟩
    · cases hcut
    · cases hstops with
      | @mismatchCap chunk hflow =>
        obtain ⟨seen, rest, hlines, haligned, -⟩ := hu.compared.feed_aligned k chunk u.echo
        refine ⟨_, rest, ?_, haligned.isLine, ?_, ?_⟩
        · rw [outputRead_concat]
          exact hlines
        · show _ ++ (k.feed u.cursor chunk u.echo).cursor.expected = _
          rw [feed_expected]
          exact haligned.right
        · show (k.feed u.cursor chunk u.echo).cursor.mismatches.toList = _
          rw [feed_mismatches]
          exact haligned.wrong
  · exact ⟨_, [], (List.append_nil _).symm, (h.compared hending).aligned⟩

/-- A wrong line with which some bytes do not begin is not their first line and, if both are text,
is not quoted like it. -/
theorem quoteBytes_ne_of_not_prefix {first next rest : Bytes} (h : ¬ first <+: rest)
    (hnext : (lines rest).head? = some next) :
    first ≠ next ∧ ∀ text text', first = ofString text → next = ofString text' →
      quoteBytes first ≠ quoteBytes next := by
  have hne : first ≠ next := by
    rintro rfl
    obtain ⟨more, hmore⟩ := List.head?_eq_some_iff.mp hnext
    have hflat := flatten_lines rest
    rw [hmore, List.flatten_cons] at hflat
    exact h ⟨more.flatten, hflat⟩
  refine ⟨hne, ?_⟩
  rintro text text' rfl rfl hquote
  exact hne (congrArg ofChars (quoteBytes_injective hquote))

/-- The output leaves the script at its first wrong line, and what is still expected is what was
expected there. -/
structure LeavesScript (expected output : Bytes) (c : Cursor) (matched : List Bytes)
    (first : Bytes) (later : List Bytes) : Prop where
  output_eq : (splitLines output).1 = matched ++ first :: later
  recorded : c.mismatches.toList <+: first :: later
  expected_eq : matched.flatten ++ c.expected = expected
  first_ne : ∀ next, (lines c.expected).head? = some next →
    first ≠ next ∧ ∀ text text', first = ofString text → next = ofString text' →
      quoteBytes first ≠ quoteBytes next

theorem Run.leavesScript (h : Run k (.start input expected echo) events ending s)
    (hdiverged : s.cursor.diverged = true) :
    ∃ matched first later, s.cursor.mismatches.toList.head? = some first ∧
      LeavesScript expected (outputRead events) s.cursor matched first later := by
  obtain ⟨seen, rest, houtput, haligned⟩ := h.aligned
  obtain ⟨first, more, hrecorded⟩ :=
    List.exists_cons_of_ne_nil (Cursor.diverged_iff.mp hdiverged)
  have hwrong : wrongLines expected seen = first :: more := by
    rw [← haligned.wrong, hrecorded]
  refine ⟨rightLines expected seen, first, more ++ rest, ?_, ?_, ?_, haligned.right, ?_⟩
  · rw [hrecorded]
    rfl
  · rw [houtput, ← List.cons_append, ← hwrong, ← List.append_assoc, rightLines_append_wrongLines]
  · rw [hrecorded]
    exact ⟨rest, rfl⟩
  · intro next hnext
    exact quoteBytes_ne_of_not_prefix (haligned.not_prefix_of_wrong hrecorded) hnext

/-! ### How much is shown -/

theorem expectedHeading_eq_iff {count : Nat} :
    expectedHeading count = "but no more output was expected." ↔ count = 0 := by
  constructor
  · intro h
    match count with
    | 0 => rfl
    | 1 => exact absurd h (by decide)
    | n + 2 =>
      -- The texts part at their fifth character.
      have hchars := congrArg (fun text => text.toList[4]?) h
      simp [expectedHeading] at hchars
  · rintro rfl
    rfl

/-- These of the wrong lines are shown, and these as the lines that were expected instead. -/
structure ShowsMismatches (l : Limits) (ending : Ending) (c : Cursor) (wrong correct : List Bytes) :
    Prop where
  recorded : wrong <+: c.mismatches.toList
  of_mismatchCap : ending = .mismatchCap → wrong.length = l.wrongLines
  of_other : ending ≠ .mismatchCap →
    wrong = c.mismatches.toList ∧ wrong.length < l.wrongLines + l.overflowMargin
  correct_eq : correct = (lines c.expected).take (min wrong.length (lines c.expected).length)
  heading_iff :
    expectedHeading correct.length = "but no more output was expected." ↔ c.expected = []

/-- A session is stopped by as many wrong lines as make a report cut. -/
theorem Run.shownMismatches_spec {l : Limits} {threshold : Nat} (hvalid : l.isValid = true)
    (hthreshold : l.overflowThreshold? = some threshold)
    (h : Run (.ofThreshold threshold) (.start input expected echo) events ending s)
    (hdiverged : s.cursor.diverged = true) :
    ∃ shown, shownMismatches? s.cursor l = some shown ∧
      shown <+: s.cursor.mismatches.toList ∧ shown ≠ [] ∧
      (ending = .mismatchCap → shown.length = l.wrongLines) ∧
      (ending ≠ .mismatchCap → shown = s.cursor.mismatches.toList ∧
        shown.length < l.wrongLines + l.overflowMargin) := by
  have hcap : (ofThreshold threshold).cap = threshold := Limits.cap_of_isValid hvalid hthreshold
  have hpos : 0 < l.wrongLines := by simpa [Limits.isValid] using hvalid
  obtain ⟨rfl, -⟩ := Limits.overflowThreshold?_eq_some_iff.mp hthreshold
  have hshown := shownMismatches?_eq hthreshold hdiverged
  by_cases hending : ending = .mismatchCap
  · subst hending
    have hsize : s.cursor.mismatches.toList.length = l.wrongLines + l.overflowMargin := by
      rw [Array.length_toList, h.size_eq (cap_ofThreshold_pos _), hcap]
    have hlength : (s.cursor.mismatches.toList.take (max l.wrongLines 1)).length =
        l.wrongLines := by
      rw [List.length_take, hsize]
      omega
    rw [if_pos (Nat.le_of_eq hsize.symm)] at hshown
    refine ⟨_, hshown, List.take_prefix _ _, ?_, fun _ => hlength, fun hne => absurd rfl hne⟩
    apply List.ne_nil_of_length_pos
    rw [hlength]
    exact hpos
  · have hsize : s.cursor.mismatches.toList.length < l.wrongLines + l.overflowMargin := by
      rw [Array.length_toList, ← hcap]
      exact h.size_lt (cap_ofThreshold_pos _) hending
    rw [if_neg (Nat.not_le.mpr hsize)] at hshown
    exact ⟨_, hshown, List.prefix_refl _, Cursor.diverged_iff.mp hdiverged,
      fun hcapped => absurd hcapped hending, fun _ => ⟨rfl, hsize⟩⟩

/-- The lines that are set beside the wrong ones, and what is said of them. -/
theorem correctLines_spec {c : Cursor} {wrong : List Bytes} (hne : wrong ≠ []) :
    let correct := (lines c.expected).take wrong.length
    correct = (lines c.expected).take (min wrong.length (lines c.expected).length) ∧
      (expectedHeading correct.length = "but no more output was expected." ↔ c.expected = []) := by
  have hpos : 0 < wrong.length := List.length_pos_iff.mpr hne
  constructor
  · rw [List.take_eq_take_iff]
    omega
  · rw [expectedHeading_eq_iff, ← lines_eq_nil_iff, ← List.length_eq_zero_iff, List.length_take]
    omega

/-- What is said of a run in which a line was wrong. -/
theorem Run.mismatchReport {l : Limits} {threshold : Nat} {verdict : Verdict}
    (hvalid : l.isValid = true) (hthreshold : l.overflowThreshold? = some threshold)
    (h : Run (.ofThreshold threshold) (.start input expected echo) events ending s)
    (hverdict : judge? ending s.cursor l = some verdict)
    (hreason : verdict.reason? = some .outputMismatch) :
    ∃ wrong correct matched first later,
      verdict.diagnostic = (mismatchReport wrong correct).flatMap Note.render ∧
      ShowsMismatches l ending s.cursor wrong correct ∧ wrong.head? = some first ∧
      LeavesScript expected (outputRead events) s.cursor matched first later := by
  have hmismatch := hreason
  rw [reason?_of_judge? hverdict] at hmismatch
  obtain ⟨-, -, hdiverged⟩ := reasonOf_eq_outputMismatch_iff.mp hmismatch
  obtain ⟨wrong, hshown, hrecorded, hne, hcapped, hall⟩ :=
    h.shownMismatches_spec hvalid hthreshold hdiverged
  obtain ⟨matched, first, later, hhead, hleaves⟩ := h.leavesScript hdiverged
  obtain ⟨hcorrect, hheading⟩ := correctLines_spec (c := s.cursor) hne
  refine ⟨wrong, _, matched, first, later, diagnostic_of_outputMismatch hverdict hreason hshown,
    ⟨hrecorded, hcapped, hall, hcorrect, hheading⟩, ?_, hleaves⟩
  obtain ⟨rest, hrest⟩ := hrecorded
  obtain ⟨line, more, hwrong⟩ := List.exists_cons_of_ne_nil hne
  rw [← hrest, hwrong] at hhead
  rw [hwrong]
  exact hhead

end Session

open Session

end Rehearsal
