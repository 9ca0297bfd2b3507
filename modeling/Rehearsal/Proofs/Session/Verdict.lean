import Rehearsal.Runner
import Rehearsal.Proofs.Judgement
import Rehearsal.Proofs.Session.Run

/-!
# What the verdict says about a run

A verdict is found from what a cursor still holds. Here it is said what that means for what went
over the streams.

* `Run.reason_of_first_match`: over whole runs, the first thing on the list that went wrong is the
  reason.
* `Run.reason_of_output_ended`: if the output ended, the reason depends on nothing but the script,
  the output, and the input that was taken.
* `Run.pass_sound_iff`: a program that passes has written exactly what was expected and taken
  exactly what it was given, with one exception. If quiet closes a session in the middle of a line
  of output, that line is forgotten, and the program may pass (`pass_not_sound`).

The last two rest on one lemma, `Run.reasonOf_closed`: a session that is closed compares the
whole lines of its output with the script, and nothing else. `Runner.conclude_ok_iff` says that
runs are what the outcome of a test is about.

The first two also say when there is no verdict at all. Limits that are valid may be too large for
the sum at which the rest of a script is cut, and then judging comes to nothing wherever a rest is
to be shown (`closed_run_without_verdict`, `refused_run_without_verdict`).
-/

namespace Rehearsal

open Bytes

/-- With limits that are valid, the cap on wrong lines is the threshold at which they are cut. -/
theorem Limits.cap_of_isValid {l : Limits} {threshold : Nat} (h : l.isValid = true)
    (hthreshold : l.overflowThreshold? = some threshold) :
    (Comparator.ofThreshold threshold).cap = threshold := by
  have hlines : 0 < l.wrongLines := by simpa [isValid] using h
  obtain ⟨rfl, -⟩ := overflowThreshold?_eq_some_iff.mp hthreshold
  exact Nat.max_eq_left (Nat.le_add_right_of_le hlines)

namespace Judgement

variable {ending : Ending} {c : Cursor} {l : Limits}

/-- Error output is shown as it came, after its heading. -/
theorem judge?_errorOutput (bytes : Bytes) (c : Cursor) (l : Limits) :
    judge? (.errorOutput bytes) c l =
      some (.fail .stderrOutput (ofString "\n!!ERROR OUTPUT!!\n" ++ bytes)) := by
  have hheading : "\n" ++ "!!ERROR OUTPUT!!" ++ "\n" = "\n!!ERROR OUTPUT!!\n" := rfl
  rw [← hheading]
  simp [judge?, findings, Note.render]

/-- Only a session that is closed is passed, if those that end by wrong lines have seen one. -/
theorem closed_of_pass (hpass : judge? ending c l = some .pass)
    (hwrong : ending = .diverged ∨ ending = .mismatchCap → c.diverged = true) :
    ending = .closed := by
  rw [judge?_eq_pass_iff] at hpass
  cases ending with
  | closed => rfl
  | errorOutput bytes => cases hpass
  | unterminated => cases hpass
  | diverged | mismatchCap =>
    rw [reasonOf_of_wrong (hwrong (by simp)) (by simp) (by simp)] at hpass
    cases hpass
  | brokenPipe | timeLimit =>
    cases hdiverged : c.diverged with
    | true =>
      rw [reasonOf_of_wrong hdiverged (by simp) (by simp)] at hpass
      cases hpass
    | false =>
      rw [reasonOf_of_right _ hdiverged] at hpass
      cases hpass

end Judgement

namespace Session

open Judgement

variable {input expected : Bytes} {echo : Sink} {events : List Event} {ending : Ending}
variable {s : Session}

/-! ### A session that is closed -/

/-- Why a program fails that ended both its output streams, seen from outside. -/
def closedReason (input expected output taken : Bytes) : Option FailReason :=
  if ¬ output <+: expected then some .outputMismatch
  else if taken ≠ input then some .unconsumedInput
  else if output ≠ expected then some .incompleteOutput
  else none

section ClosedReason

variable {output taken : Bytes}

theorem closedReason_eq_none_iff :
    closedReason input expected output taken = none ↔ output = expected ∧ taken = input := by
  rw [closedReason]
  split
  · next hoff =>
    refine iff_of_false (by simp) ?_
    rintro ⟨rfl, -⟩
    exact hoff (List.prefix_refl _)
  · split
    · next hinput => exact iff_of_false (by simp) (fun h => hinput h.2)
    · next hinput =>
      split
      · next hshort => exact iff_of_false (by simp) (fun h => hshort h.1)
      · next hshort => exact iff_of_true rfl ⟨not_not.mp hshort, not_not.mp hinput⟩

theorem closedReason_eq_outputMismatch_iff :
    closedReason input expected output taken = some .outputMismatch ↔ ¬ output <+: expected := by
  rw [closedReason]
  split
  · next hoff => exact iff_of_true rfl hoff
  · next hon =>
    refine iff_of_false ?_ hon
    split
    · simp
    · split <;> simp

theorem closedReason_eq_unconsumedInput_iff :
    closedReason input expected output taken = some .unconsumedInput ↔
      output <+: expected ∧ taken ≠ input := by
  rw [closedReason]
  split
  · next hoff => exact iff_of_false (by simp) (fun h => hoff h.1)
  · next hon =>
    split
    · next hinput => exact iff_of_true rfl ⟨not_not.mp hon, hinput⟩
    · next hinput =>
      refine iff_of_false ?_ (fun h => hinput h.2)
      split <;> simp

theorem closedReason_eq_incompleteOutput_iff :
    closedReason input expected output taken = some .incompleteOutput ↔
      (output <+: expected ∧ output ≠ expected) ∧ taken = input := by
  rw [closedReason]
  split
  · next hoff => exact iff_of_false (by simp) (fun h => hoff h.1.1)
  · next hon =>
    split
    · next hinput => exact iff_of_false (by simp) (fun h => hinput h.2)
    · next hinput =>
      split
      · next hshort => exact iff_of_true rfl ⟨⟨not_not.mp hon, hshort⟩, not_not.mp hinput⟩
      · next hshort => exact iff_of_false (by simp) (fun h => hshort h.1.2)

end ClosedReason

/-- The verdict on a session that is closed compares the whole lines of its output with the script,
and what was taken of the input with all of it. -/
theorem Run.reasonOf_closed {k : Comparator}
    (h : Run k (.start input expected echo) events .closed s) :
    reasonOf .closed s.cursor =
      closedReason input expected (splitLines (outputRead events)).1.flatten
        ((start input expected echo).inputTaken k events) := by
  have hcompared : Comparator.Compared expected (outputRead events) s.cursor := h.compared (by simp)
  cases hdiverged : s.cursor.diverged with
  | true =>
    have hoff : ¬ (splitLines (outputRead events)).1.flatten <+: expected := by
      rw [← hcompared.diverged_eq_false_iff, hdiverged]
      simp
    rw [reasonOf_of_wrong hdiverged (by simp) (by simp), closedReason, if_pos hoff]
  | false =>
    have hon : (splitLines (outputRead events)).1.flatten <+: expected :=
      hcompared.diverged_eq_false_iff.mp hdiverged
    -- Nothing is left of a whole if and only if the part that went is all of it.
    have hinput : s.cursor.remainingInput = [] ↔
        (start input expected echo).inputTaken k events = input := by
      rw [← List.append_right_eq_self, h.inputTaken_append, eq_comm]
    have hexpected : s.cursor.expected = [] ↔
        (splitLines (outputRead events)).1.flatten = expected := by
      rw [← List.append_right_eq_self, hcompared.flatten_append_expected hdiverged, eq_comm]
    rw [reasonOf_of_right _ hdiverged, rightReason, leftoverReason, closedReason,
      if_neg (not_not.mpr hon)]
    simp only [ne_eq, hinput, hexpected]

/-- Only a session that is closed is passed. -/
theorem Run.closed_of_pass {k : Comparator} (hcap : 0 < k.cap) {l : Limits}
    (h : Run k (.start input expected echo) events ending s)
    (hpass : judge? ending s.cursor l = some .pass) : ending = .closed := by
  refine Judgement.closed_of_pass hpass ?_
  rintro (rfl | rfl)
  · exact h.of_diverged.1
  · have hsize : s.cursor.mismatches.size = k.cap := h.size_eq hcap
    rw [Cursor.diverged_iff, ← List.length_pos_iff, Array.length_toList, hsize]
    exact hcap

/-- **A pass is sound, with one exception.** A program that passes has written exactly what was
expected, has taken exactly what it was given, and has written no error output, unless its run was
closed by quiet in the middle of a line, all lines before that were what was expected, and all
input was taken. Such a run is a pass, and it is not sound. All this is so whatever the limits, and
whatever the threshold for wrong lines. -/
theorem Run.pass_sound_iff (l : Limits) {threshold : Nat}
    (h : Run (.ofThreshold threshold) (.start input expected echo) events ending s) :
    let output := outputRead events
    let taken := (start input expected echo).inputTaken (.ofThreshold threshold) events
    (judge? ending s.cursor l = some .pass →
        output = expected ∧ taken = input ∧ ∀ chunk, .errorOutput chunk ∉ events) ↔
      ¬ (QuietInsideLine events ∧ (splitLines output).1.flatten = expected ∧ taken = input) := by
  intro output taken
  constructor
  · rintro hsound ⟨hquiet, hlines, htaken⟩
    obtain ⟨rfl, -⟩ := h.quietInsideLine_iff.mp hquiet
    have hpass : judge? .closed s.cursor l = some .pass := by
      rw [judge?_eq_pass_iff, h.reasonOf_closed, closedReason_eq_none_iff]
      exact ⟨hlines, htaken⟩
    -- The unfinished line is output, but not expected.
    have hrest : (splitLines output).1.flatten ++ (splitLines output).2 =
        (splitLines output).1.flatten := by
      rw [flatten_splitLines, hlines]
      exact (hsound hpass).1
    exact hquiet.2.2.2 (List.append_right_eq_self.mp hrest)
  · intro hloud hpass
    obtain rfl : ending = .closed := h.closed_of_pass (Comparator.cap_ofThreshold_pos _) hpass
    have hreason := h.reasonOf_closed
    rw [judge?_eq_pass_iff.mp hpass] at hreason
    obtain ⟨hlines, htaken⟩ := closedReason_eq_none_iff.mp hreason.symm
    -- A session that is closed with a line unfinished was closed by quiet.
    have hcarry : s.cursor.carry = [] := by
      by_contra hcarry
      exact hloud ⟨h.quietInsideLine_iff.mpr ⟨rfl, hcarry⟩, hlines, htaken⟩
    rw [(h.compared (by simp)).carry] at hcarry
    refine ⟨?_, htaken, fun chunk hmem => ?_⟩
    · rw [← hlines, ← List.append_nil (splitLines output).1.flatten, ← hcarry, flatten_splitLines]
    · cases (h.errorOutput_mem_iff chunk).mp hmem

/-- One line in, two pieces of a line out, and the end of both output streams. -/
theorem pass_sound_of_echoed_line :
    let events : List Event :=
      [.quiet, .accepted 2, .output [97], .output [10], .errorEnd, .outputEnd]
    let s := ((start [97, 10] [97, 10] {}).play (.ofThreshold 15) events).session
    Limits.overflowThreshold? {} = some 15 ∧
      Run (.ofThreshold 15) (.start [97, 10] [97, 10] {}) events .closed s ∧
      judge? .closed s.cursor {} = some .pass ∧ outputRead events = [97, 10] := by
  intro events s
  have hrun : Run (.ofThreshold 15) (.start [97, 10] [97, 10] {}) events .closed s :=
    ⟨by decide, .ended .closed s⟩
  have hpass : judge? .closed s.cursor {} = some .pass := by decide
  exact ⟨rfl, hrun, hpass, ((hrun.pass_sound_iff {}).mpr (by decide) hpass).1⟩

/-- Nothing is expected, and the program writes no newline, closes its error stream and waits. -/
theorem pass_not_sound :
    ¬ ∀ (input expected : Bytes) (l : Limits) (threshold : Nat) (echo : Sink)
        (events : List Event) (ending : Ending) (s : Session),
      l.isValid = true → l.overflowThreshold? = some threshold →
      Run (.ofThreshold threshold) (.start input expected echo) events ending s →
      judge? ending s.cursor l = some .pass →
      outputRead events = expected ∧
        (start input expected echo).inputTaken (.ofThreshold threshold) events = input ∧
        ∀ chunk, .errorOutput chunk ∉ events := by
  intro h
  have hsound := h [] [] {} 15 {} [.errorEnd, .output [97, 98, 99], .quiet] .closed _ (by decide)
    rfl ⟨by decide, .ended .closed _⟩ (by decide)
  exact absurd hsound.1 (by decide)

/-- Something of the script is to be shown, on a session that is closed, if and only if its output
is right and not all, or not all of the input was taken. -/
theorem Run.showsScript_closed_iff {k : Comparator} {output : Bytes}
    (h : Run k (.start input expected echo) events .closed s)
    (houtput : (splitLines (outputRead events)).1.flatten = output) :
    ShowsScript .closed s.cursor ↔
      output <+: expected ∧
        ¬ (output = expected ∧ (start input expected echo).inputTaken k events = input) := by
  have hreason := h.reasonOf_closed
  have hright : s.cursor.diverged = false ↔ output <+: expected := by
    rw [← houtput]
    exact (h.compared (by simp)).diverged_eq_false_iff
  rw [houtput] at hreason
  rw [showsScript_iff, hright, ← closedReason_eq_none_iff, ← hreason]
  simp only [reduceCtorEq, exists_false, not_false_eq_true, ne_eq, true_and, false_or,
    and_congr_right_iff]
  intro hon
  rw [reasonOf_of_right _ (hright.mpr hon), rightReason, leftoverReason]
  by_cases hinput : s.cursor.remainingInput = []
  · by_cases hexpected : s.cursor.expected = [] <;> simp [hinput, hexpected]
  · simp [hinput]

/-- **The verdict on a program that ends its output**, in a session that is closed because its error
stream ended as well or stayed quiet. The output is empty or ends in a newline, and the reason
depends on nothing but the script, the output, and the input that was taken. There is a verdict
unless a rest of the script is to be shown and the sum at which it is cut is too large. -/
theorem Run.reason_of_output_ended {l : Limits} {threshold : Nat}
    (hthreshold : l.overflowThreshold? = some threshold)
    (h : Run (.ofThreshold threshold) (.start input expected echo) events .closed s)
    (hout : .outputEnd ∈ events) :
    let output := outputRead events
    let taken := (start input expected echo).inputTaken (.ofThreshold threshold) events
    (output = [] ∨ output.getLast? = some newline) ∧
    (∀ verdict, judge? .closed s.cursor l = some verdict →
      (verdict.reason? = some .outputMismatch ↔ ¬ output <+: expected) ∧
      (verdict.reason? = some .unconsumedInput ↔
        output <+: expected ∧ taken <+: input ∧ taken ≠ input) ∧
      (verdict.reason? = some .incompleteOutput ↔
        (output <+: expected ∧ output ≠ expected) ∧ taken = input) ∧
      (verdict = .pass ↔ output = expected ∧ taken = input) ∧
      verdict.reason? = closedReason input expected output taken) ∧
    (judge? .closed s.cursor l = none ↔
      2 ^ 64 ≤ l.postCrashLines + l.overflowMargin ∧
        output <+: expected ∧ ¬ (output = expected ∧ taken = input)) := by
  intro output taken
  have hcarry : s.cursor.carry = [] := by
    by_contra hcarry
    exact (h.quiet_of_carry hcarry).2.2 hout
  rw [(h.compared (by simp)).carry] at hcarry
  have hlines : (splitLines output).1.flatten = output := by
    rw [← List.append_nil (splitLines output).1.flatten, ← hcarry, flatten_splitLines]
  have htaken : taken <+: input := ⟨_, h.inputTaken_append⟩
  refine ⟨eq_nil_or_getLast?_of_rest_eq_nil hcarry, fun verdict hverdict => ?_, ?_⟩
  · have hreason : verdict.reason? = closedReason input expected output taken := by
      rw [← hlines, reason?_of_judge? hverdict]
      exact h.reasonOf_closed
    refine ⟨?_, ?_, ?_, ?_, hreason⟩
    · rw [hreason, closedReason_eq_outputMismatch_iff]
    · rw [hreason, closedReason_eq_unconsumedInput_iff, and_iff_right htaken]
    · rw [hreason, closedReason_eq_incompleteOutput_iff]
    · rw [← Verdict.reason?_eq_none_iff, hreason, closedReason_eq_none_iff]
  · rw [judge?_eq_none_iff hthreshold, h.showsScript_closed_iff hlines]

/-- All of the input is taken, and the output stops after the first of two lines. -/
theorem reason_of_output_ended_after_one_line :
    let events : List Event :=
      [.quiet, .accepted 1, .accepted 1, .output [97, 10], .outputEnd, .errorEnd]
    let s := ((start [97, 10] [97, 10, 98, 10] {}).play (.ofThreshold 15) events).session
    Limits.overflowThreshold? {} = some 15 ∧
      Run (.ofThreshold 15) (.start [97, 10] [97, 10, 98, 10] {}) events .closed s ∧
      .outputEnd ∈ events ∧
      ∃ verdict, judge? .closed s.cursor {} = some verdict ∧
        verdict.reason? = some .incompleteOutput := by
  intro events s
  have hthreshold : Limits.overflowThreshold? {} = some 15 := rfl
  have hrun : Run (.ofThreshold 15) (.start [97, 10] [97, 10, 98, 10] {}) events .closed s :=
    ⟨by decide, .ended .closed s⟩
  have hout : .outputEnd ∈ events := by decide
  obtain ⟨-, hreason, hnone⟩ := hrun.reason_of_output_ended hthreshold hout
  have hverdict : judge? .closed s.cursor {} ≠ none := fun h =>
    absurd (hnone.mp h).1 (by decide)
  obtain ⟨verdict, hsome⟩ := Option.ne_none_iff_exists'.mp hverdict
  exact ⟨hthreshold, hrun, hout, verdict, hsome, (hreason verdict hsome).2.2.1.mpr (by decide)⟩

/-- Both output streams end at once and four lines were expected. The largest limit on what is shown
of them is valid, but with the slack it is not a number of 64 bits. -/
theorem closed_run_without_verdict :
    let l : Limits := { postCrashLines := 2 ^ 64 - 1 }
    let expected : Bytes := [49, 10, 50, 10, 51, 10, 52, 10]
    let events : List Event := [.outputEnd, .errorEnd]
    let s := ((start [] expected {}).play (.ofThreshold 15) events).session
    l.isValid = true ∧ l.overflowThreshold? = some 15 ∧
      Run (.ofThreshold 15) (.start [] expected {}) events .closed s ∧
      judge? .closed s.cursor l = none :=
  ⟨rfl, rfl, ⟨by decide, .ended .closed _⟩, by decide⟩

/-! ### The first match -/

theorem Run.errorOutput_ne_nil {k : Comparator} {s₀ : Session} (h : Run k s₀ events ending s)
    {chunk : Bytes} (hmem : .errorOutput chunk ∈ events) : chunk ≠ [] := by
  rcases h.cut_or_stopped with ⟨limit, -, hwaits⟩ | ⟨past, e, u, rfl, hu, henabled, -⟩
  · exact absurd hmem (hwaits.errorOutput_not_mem chunk)
  · rcases List.mem_append.mp hmem with hpast | hlast
    · exact absurd hpast (hu.errorOutput_not_mem chunk)
    · rw [← List.mem_singleton.mp hlast] at henabled
      exact henabled.2

/-- A session that gives up on wrong lines has seen fewer than would have stopped it. -/
theorem Run.size_of_diverged {k : Comparator} (hcap : 0 < k.cap)
    (h : Run k (.start input expected echo) events .diverged s) :
    1 ≤ s.cursor.mismatches.size ∧ s.cursor.mismatches.size ≤ k.cap - 1 ∧
      s.cursor.hasPending = false := by
  obtain ⟨hdiverged, hstaged⟩ := h.of_diverged
  have hlt : s.cursor.mismatches.size < k.cap := h.size_lt hcap (by simp)
  refine ⟨?_, Nat.le_sub_one_of_lt hlt, by simp [Cursor.hasPending, hstaged]⟩
  rw [Cursor.diverged_iff, ← List.length_pos_iff, Array.length_toList] at hdiverged
  exact hdiverged

/-- **What decides the verdict.** Error output is the reason if there was any; then output that
ended inside a line; then a wrong line; then the way the session ended; then what is left of the
script. There is a verdict unless nothing of the first three happened, a rest of the script is to be
shown, and the sum at which it is cut is too large. The number of wrong lines is between none and
the threshold, as the ending demands. -/
theorem Run.reason_of_first_match {l : Limits} {threshold : Nat} (hl : l.isValid = true)
    (hthreshold : l.overflowThreshold? = some threshold)
    (h : Run (.ofThreshold threshold) (.start input expected echo) events ending s) :
    let wrong := s.cursor.mismatches
    let sawErrors : Prop := ∃ chunk, .errorOutput chunk ∈ events
    let sawUnterminated : Prop :=
      EndsInsideLine (.ofThreshold threshold) (.start input expected echo) events
    (∀ verdict, judge? ending s.cursor l = some verdict →
      (verdict.reason? = some .stderrOutput ↔ sawErrors) ∧
      (∀ chunk, .errorOutput chunk ∈ events →
        chunk ≠ [] ∧ verdict.diagnostic = Bytes.ofString "\n!!ERROR OUTPUT!!\n" ++ chunk) ∧
      (verdict.reason? = some .unterminatedOutput ↔ sawUnterminated) ∧
      (verdict.reason? = some .outputMismatch ↔ ¬ sawErrors ∧ ¬ sawUnterminated ∧ wrong ≠ #[]) ∧
      (¬ sawErrors → ¬ sawUnterminated → wrong = #[] →
        verdict.reason? =
          match ending with
          | .brokenPipe => some .brokenPipe
          | .timeLimit _ => some .timeLimitExceeded
          | _ =>
            if s.cursor.remainingInput ≠ [] then some .unconsumedInput
            else if s.cursor.expected ≠ [] then some .incompleteOutput
            else none)) ∧
    (judge? ending s.cursor l = none ↔
      2 ^ 64 ≤ l.postCrashLines + l.overflowMargin ∧ ¬ sawErrors ∧ ¬ sawUnterminated ∧
        wrong = #[] ∧ (ending = .brokenPipe ∨ s.cursor.remainingInput ≠ [] ∨
          s.cursor.expected ≠ [])) ∧
    (ending = .diverged →
      1 ≤ wrong.size ∧ wrong.size ≤ threshold - 1 ∧ s.cursor.hasPending = false) ∧
    (ending = .mismatchCap → wrong.size = threshold) ∧
    (ending ≠ .mismatchCap → wrong.size < threshold) := by
  intro wrong sawErrors sawUnterminated
  have hcap : (Comparator.ofThreshold threshold).cap = threshold :=
    Limits.cap_of_isValid hl hthreshold
  have hpos : 0 < (Comparator.ofThreshold threshold).cap := Comparator.cap_ofThreshold_pos _
  have herrors : sawErrors ↔ ∃ chunk, ending = .errorOutput chunk :=
    exists_congr h.errorOutput_mem_iff
  have hunterminated : sawUnterminated ↔ ending = .unterminated := h.endsInsideLine_iff
  have hwrong : s.cursor.diverged = true ↔ wrong ≠ #[] := by
    simp [wrong, Cursor.diverged]
  have hright : s.cursor.diverged = false ↔ wrong = #[] := by
    rw [← Bool.not_eq_true, hwrong, not_not]
  refine ⟨fun verdict hverdict => ?_, ?_, ?_, ?_, ?_⟩
  · rw [reason?_of_judge? hverdict]
    refine ⟨?_, ?_, ?_, ?_, ?_⟩
    · rw [herrors]
      exact reasonOf_eq_stderrOutput_iff
    · intro chunk hmem
      obtain rfl : ending = .errorOutput chunk := (h.errorOutput_mem_iff chunk).mp hmem
      rw [judge?_errorOutput] at hverdict
      obtain rfl := Option.some.inj hverdict
      exact ⟨h.errorOutput_ne_nil hmem, rfl⟩
    · rw [hunterminated]
      exact reasonOf_eq_unterminatedOutput_iff
    · rw [herrors, hunterminated, ← hwrong]
      exact reasonOf_eq_outputMismatch_iff
    · intro hnoErrors hterminated hnil
      rw [herrors] at hnoErrors
      rw [hunterminated] at hterminated
      rw [reasonOf_of_right _ (hright.mpr hnil)]
      cases ending with
      | errorOutput bytes => exact absurd ⟨bytes, rfl⟩ hnoErrors
      | unterminated => exact absurd rfl hterminated
      | brokenPipe | timeLimit | closed | diverged | mismatchCap => rfl
  · rw [judge?_eq_none_iff hthreshold, showsScript_iff, ← herrors, ne_eq, ← hunterminated, hright]
  · rintro rfl
    rw [← hcap]
    exact h.size_of_diverged hpos
  · rintro rfl
    rw [← hcap]
    exact h.size_eq hpos
  · intro hending
    rw [← hcap]
    exact h.size_lt hpos hending

/-- A wrong line comes first, but error output decides. -/
theorem reason_of_first_match_after_wrong_line :
    let events : List Event := [.output [98, 10], .errorOutput [33]]
    let s := ((start [] [97, 10] {}).play (.ofThreshold 15) events).session
    Limits.isValid {} = true ∧ Limits.overflowThreshold? {} = some 15 ∧
      Run (.ofThreshold 15) (.start [] [97, 10] {}) events (.errorOutput [33]) s ∧
      ∃ verdict, judge? (.errorOutput [33]) s.cursor {} = some verdict ∧
        verdict.reason? = some .stderrOutput ∧ s.cursor.mismatches.size < 15 := by
  intro events s
  have hvalid : Limits.isValid {} = true := by decide
  have hthreshold : Limits.overflowThreshold? {} = some 15 := rfl
  have hrun : Run (.ofThreshold 15) (.start [] [97, 10] {}) events (.errorOutput [33]) s :=
    ⟨by decide, .ended (.errorOutput [33]) s⟩
  obtain ⟨hreasons, -, -, -, hsize⟩ := Run.reason_of_first_match hvalid hthreshold hrun
  have hverdict := judge?_errorOutput [33] s.cursor {}
  exact ⟨hvalid, hthreshold, hrun, _, hverdict,
    (hreasons _ hverdict).1.mpr ⟨[33], by decide⟩, hsize (by decide)⟩

/-- A program refuses the first of four lines. The largest limit on what is shown of them is valid,
but with the slack it is not a number of 64 bits. -/
theorem refused_run_without_verdict :
    let l : Limits := { postCrashLines := 2 ^ 64 - 1 }
    let input : Bytes := [49, 10, 50, 10, 51, 10, 52, 10]
    let events : List Event := [.quiet, .refused]
    let s := ((start input [] {}).play (.ofThreshold 15) events).session
    l.isValid = true ∧ l.overflowThreshold? = some 15 ∧
      Run (.ofThreshold 15) (.start input [] {}) events .brokenPipe s ∧
      judge? .brokenPipe s.cursor l = none :=
  ⟨rfl, rfl, ⟨by decide, .ended .brokenPipe _⟩, by decide⟩

end Session

/-! ### The outcome of a performance -/

/-- A session comes to an end by which it can be judged, or it is cut off when time is up. -/
theorem Session.Run.of_conclusion? {k : Comparator} {s₀ : Session} {events : List Event}
    {ending : Ending} {timeLimit : Option Duration} (hadmits : s₀.Admits k events)
    (h : (s₀.play k events).conclusion? timeLimit = some (.ok ending)) :
    Session.Run k s₀ events ending (s₀.play k events).session ∧
      ∀ limit, ending = .timeLimit limit → timeLimit = some limit := by
  generalize hplay : s₀.play k events = progress at h ⊢
  cases progress with
  | running s =>
    rw [Session.Progress.conclusion?, Option.map_eq_some_iff] at h
    obtain ⟨limit, hlimit, hending⟩ := h
    obtain rfl := Except.ok.inj hending
    have hrun : Session.Run k s₀ events (.timeLimit limit) s := ⟨hadmits, hplay ▸ .timeUp limit s⟩
    refine ⟨hrun, ?_⟩
    rintro _ ⟨⟩
    exact hlimit
  | ended ending' s =>
    rw [Session.Progress.conclusion?] at h
    obtain rfl := Except.ok.inj (Option.some.inj h)
    have hrun : Session.Run k s₀ events ending' s := ⟨hadmits, hplay ▸ .ended ending' s⟩
    refine ⟨hrun, ?_⟩
    -- Nothing that happens ends a session by the time limit.
    rintro limit rfl
    rcases hrun.cut_or_stopped with ⟨_, -, hwaits⟩ | ⟨_, _, _, -, -, -, hstops⟩
    · rw [hwaits.play] at hplay
      cases hplay
    · cases hstops
  | failed failure s =>
    rw [Session.Progress.conclusion?] at h
    cases Option.some.inj h

theorem Session.Run.conclusion? {k : Comparator} {s₀ s : Session} {events : List Event}
    {ending : Ending} {timeLimit : Option Duration} (h : Session.Run k s₀ events ending s)
    (hlimit : ∀ limit, ending = .timeLimit limit → timeLimit = some limit) :
    (s₀.play k events).conclusion? timeLimit = some (.ok ending) := by
  have hconcludes := h.concludes
  generalize s₀.play k events = progress at hconcludes ⊢
  cases hconcludes with
  | ended => rfl
  | timeUp limit =>
    rw [hlimit limit rfl]
    rfl

/-- There is an outcome if and only if there is a verdict. -/
theorem Runner.resultOf_eq_ok_iff {r : Runner} {t : Testcase} {c : Cursor} {elapsed : Duration}
    {conclusion : Except Session.Failure Ending} {outcome : Outcome} :
    r.resultOf t c elapsed conclusion = .ok outcome ↔
      ∃ ending verdict, conclusion = .ok ending ∧ judge? ending c r.limits = some verdict ∧
        outcome = ⟨t.name, verdict, elapsed⟩ := by
  cases conclusion with
  | error cause => exact iff_of_false nofun (by rintro ⟨_, _, ⟨⟩, _⟩)
  | ok ending =>
    rw [resultOf]
    cases hverdict : judge? ending c r.limits with
    | none => simp [hverdict]
    | some verdict => simp [hverdict, eq_comm (a := outcome)]

/-- A performance has an outcome if and only if its events are a whole run, cut short only by the
time limit of the runner, and there is a verdict on that run; the outcome is then that verdict. -/
theorem Runner.conclude_ok_iff {r : Runner} {k : Comparator} {t : Testcase} {echo : Sink}
    {events : List Event} {elapsed : Duration} {outcome : Outcome} (isOver : r.IsOver k t events)
    (hadmits : (Session.start t.input t.expected echo).Admits k events) :
    (r.conclude echo elapsed isOver).1 = .ok outcome ↔
      ∃ ending s verdict, Session.Run k (.start t.input t.expected echo) events ending s ∧
        (∀ limit, ending = .timeLimit limit → r.timeLimit = some limit) ∧
        judge? ending s.cursor r.limits = some verdict ∧
        outcome = ⟨t.name, verdict, elapsed⟩ := by
  obtain ⟨conclusion, hconclusion⟩ := Option.isSome_iff_exists.mp (isOver echo)
  rw [conclude_of_conclusion? isOver hconclusion, resultOf_eq_ok_iff]
  constructor
  · rintro ⟨ending, verdict, rfl, hverdict, houtcome⟩
    obtain ⟨hrun, hlimit⟩ := Session.Run.of_conclusion? hadmits hconclusion
    exact ⟨ending, _, verdict, hrun, hlimit, hverdict, houtcome⟩
  · rintro ⟨ending, s, verdict, hrun, hlimit, hverdict, houtcome⟩
    rw [hrun.conclusion? hlimit] at hconclusion
    refine ⟨ending, verdict, (Option.some.inj hconclusion).symm, ?_, houtcome⟩
    rw [hrun.play_session]
    exact hverdict

end Rehearsal
