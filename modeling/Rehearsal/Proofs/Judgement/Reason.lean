import Mathlib.Tactic.ByContra
import Rehearsal.Judgement

/-!
# The reason for a verdict

The reason is found from how a session ended and what its cursor holds, and `reasonOf` is the
function that finds it; the limits do not matter (`findings_fst`). Each of the reasons that come
first is characterized by what must be the case for it (`reasonOf_eq_stderrOutput_iff`,
`reasonOf_eq_unterminatedOutput_iff`, `reasonOf_eq_outputMismatch_iff`). A verdict has this reason
if there is a verdict (`reason?_of_judge?`), and there always is one if there is no reason
(`judge?_eq_pass_iff`).
-/

namespace Rehearsal

theorem Verdict.reason?_eq_none_iff {v : Verdict} : v.reason? = none ↔ v = .pass := by
  cases v <;> simp [Verdict.reason?]

namespace Judgement

/-- Why a program fails that did nothing wrong: it stopped before the end of the script. -/
def leftoverReason (c : Cursor) : Option FailReason :=
  if c.remainingInput ≠ [] then some .unconsumedInput
  else if c.expected ≠ [] then some .incompleteOutput
  else none

/-- Why a program fails that wrote no wrong line, by how its session ended. -/
def rightReason (ending : Ending) (c : Cursor) : Option FailReason :=
  match ending with
  | .errorOutput _ => some .stderrOutput
  | .unterminated => some .unterminatedOutput
  | .brokenPipe => some .brokenPipe
  | .timeLimit _ => some .timeLimitExceeded
  | .closed | .diverged | .mismatchCap => leftoverReason c

/-- Why a program fails: a wrong line is the reason, unless there was error output or the output
ended inside a line. -/
def reasonOf (ending : Ending) (c : Cursor) : Option FailReason :=
  match ending with
  | .errorOutput _ => some .stderrOutput
  | .unterminated => some .unterminatedOutput
  | ending => if c.diverged then some .outputMismatch else rightReason ending c

variable {ending : Ending} {c : Cursor} {l : Limits} {reason : FailReason} {v : Verdict}
variable {notes : Option (List Note)}

theorem reasonOf_of_right (ending : Ending) (hright : c.diverged = false) :
    reasonOf ending c = rightReason ending c := by
  cases ending <;> simp [reasonOf, rightReason, hright]

theorem reasonOf_of_wrong (hwrong : c.diverged = true)
    (herror : ∀ bytes, ending ≠ .errorOutput bytes) (hline : ending ≠ .unterminated) :
    reasonOf ending c = some .outputMismatch := by
  cases ending with
  | errorOutput bytes => exact absurd rfl (herror bytes)
  | unterminated => exact absurd rfl hline
  | closed | diverged | mismatchCap | brokenPipe | timeLimit => simp [reasonOf, hwrong]

theorem leftoverReason_eq_some (h : leftoverReason c = some reason) :
    reason = .unconsumedInput ∨ reason = .incompleteOutput := by
  rw [leftoverReason] at h
  split at h
  · exact .inl (Option.some.inj h).symm
  · split at h
    · exact .inr (Option.some.inj h).symm
    · cases h

/-- No other way to fail is taken for one of the three that come first. -/
theorem rightReason_ne (herror : ∀ bytes, ending ≠ .errorOutput bytes)
    (hline : ending ≠ .unterminated) :
    rightReason ending c ≠ some .stderrOutput ∧ rightReason ending c ≠ some .unterminatedOutput ∧
      rightReason ending c ≠ some .outputMismatch := by
  cases ending with
  | errorOutput bytes => exact absurd rfl (herror bytes)
  | unterminated => exact absurd rfl hline
  | brokenPipe | timeLimit => simp [rightReason]
  | closed | diverged | mismatchCap =>
    refine ⟨fun h => ?_, fun h => ?_, fun h => ?_⟩
    all_goals
      rcases leftoverReason_eq_some h with h | h
      · cases h
      · cases h

/-- If neither error output nor an unfinished line ended the session, neither is the reason, and a
wrong line is if there was one. -/
theorem reasonOf_of_other (herror : ∀ bytes, ending ≠ .errorOutput bytes)
    (hline : ending ≠ .unterminated) :
    reasonOf ending c ≠ some .stderrOutput ∧ reasonOf ending c ≠ some .unterminatedOutput ∧
      (reasonOf ending c = some .outputMismatch ↔ c.diverged = true) := by
  cases hdiverged : c.diverged with
  | true =>
    rw [reasonOf_of_wrong hdiverged herror hline]
    simp
  | false =>
    rw [reasonOf_of_right ending hdiverged]
    obtain ⟨hstderr, hunterminated, hmismatch⟩ := rightReason_ne herror hline
    exact ⟨hstderr, hunterminated, iff_of_false hmismatch (by simp)⟩

theorem reasonOf_eq_stderrOutput_iff :
    reasonOf ending c = some .stderrOutput ↔ ∃ bytes, ending = .errorOutput bytes := by
  constructor
  · intro h
    by_contra herror
    have hline : ending ≠ .unterminated := by
      rintro rfl
      cases h
    exact (reasonOf_of_other (not_exists.mp herror) hline).1 h
  · rintro ⟨bytes, rfl⟩
    rfl

theorem reasonOf_eq_unterminatedOutput_iff :
    reasonOf ending c = some .unterminatedOutput ↔ ending = .unterminated := by
  constructor
  · intro h
    by_contra hline
    have herror : ∀ bytes, ending ≠ .errorOutput bytes := by
      rintro bytes rfl
      cases h
    exact (reasonOf_of_other herror hline).2.1 h
  · rintro rfl
    rfl

theorem reasonOf_eq_outputMismatch_iff :
    reasonOf ending c = some .outputMismatch ↔
      (¬ ∃ bytes, ending = .errorOutput bytes) ∧ ending ≠ .unterminated ∧ c.diverged = true := by
  constructor
  · intro h
    have herror : ∀ bytes, ending ≠ .errorOutput bytes := by
      rintro bytes rfl
      cases h
    have hline : ending ≠ .unterminated := by
      rintro rfl
      cases h
    exact ⟨not_exists.mpr herror, hline, (reasonOf_of_other herror hline).2.2.mp h⟩
  · rintro ⟨herror, hline, hwrong⟩
    exact (reasonOf_of_other (not_exists.mp herror) hline).2.2.mpr hwrong

/-- The reason that is found does not depend on the limits. -/
theorem findings_fst (ending : Ending) (c : Cursor) (l : Limits) :
    (findings ending c l).map Prod.fst = reasonOf ending c := by
  cases hdiverged : c.diverged with
  | true => cases ending <;> simp [findings, reasonOf, hdiverged]
  | false =>
    cases ending with
    | errorOutput | unterminated => rfl
    | brokenPipe | timeLimit => simp [findings, reasonOf, rightReason, hdiverged]
    | closed | diverged | mismatchCap =>
      by_cases hinput : c.remainingInput = []
      · by_cases hexpected : c.expected = []
        · simp [findings, reasonOf, rightReason, leftoverReason, hdiverged, hinput, hexpected]
        · simp [findings, reasonOf, rightReason, leftoverReason, hdiverged, hinput, hexpected]
      · simp [findings, reasonOf, rightReason, leftoverReason, hdiverged, hinput]

theorem reasonOf_of_findings (h : findings ending c l = some (reason, notes)) :
    reasonOf ending c = some reason := by
  rw [← findings_fst ending c l, h]
  rfl

/-- A verdict is a pass if nothing was found, and otherwise it says what was found. -/
theorem judge?_eq_some_iff :
    judge? ending c l = some v ↔
      reasonOf ending c = none ∧ v = .pass ∨
        ∃ reason notes, findings ending c l = some (reason, some notes) ∧
          v = .fail reason (notes.flatMap Note.render) := by
  rw [judge?, ← findings_fst ending c l]
  cases findings ending c l with
  | none => simp [eq_comm]
  | some found =>
    obtain ⟨reason, notes⟩ := found
    cases notes <;> simp [eq_comm, and_assoc]

theorem reason?_of_judge? (h : judge? ending c l = some v) : v.reason? = reasonOf ending c := by
  rcases judge?_eq_some_iff.mp h with ⟨hnone, rfl⟩ | ⟨reason, notes, hfindings, rfl⟩
  · exact hnone.symm
  · exact (reasonOf_of_findings hfindings).symm

/-- A test passes if there is no reason for it to fail, whatever the limits. -/
theorem judge?_eq_pass_iff : judge? ending c l = some .pass ↔ reasonOf ending c = none := by
  constructor
  · intro h
    rw [← reason?_of_judge? h]
    rfl
  · intro h
    exact judge?_eq_some_iff.mpr (.inl ⟨h, rfl⟩)

end Judgement

end Rehearsal
