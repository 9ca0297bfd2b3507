import Mathlib.Data.List.Basic
import Rehearsal.Proofs.Judgement.Reason
import Rehearsal.Proofs.Text.Digits
import Rehearsal.Proofs.Text.Quoted

/-!
# Judging never goes out of bounds, and what is left over is accounted for

A diagnostic is cut at a sum of two limits; then a front part is taken of its lines and the rest of
them are counted. Of these operations only the sum can go wrong (`shownMismatches?_eq`,
`leftoverNotes?_eq`), so there is no verdict if and only if a sum that is taken is too large
(`judge?_eq_none_iff`).

What is left over of a script is shown in sections, one for each part of it that is left
(`PartsLeft`). A section shows all lines of its part, or as many as the limits say and the number of
the others, and it never takes up more than a few lines itself (`Section.Accounts`).
`judge_accounts_for_leftovers` says that there is a verdict if the sums are numbers of 64 bits, and
that its diagnostic consists of such sections.
-/

namespace Rehearsal

open Bytes Checked

theorem Limits.overflowThreshold?_eq_some_iff {l : Limits} {threshold : Nat} :
    l.overflowThreshold? = some threshold ↔
      threshold = l.wrongLines + l.overflowMargin ∧ l.wrongLines + l.overflowMargin < 2 ^ 64 :=
  add?_eq_some_iff

/-! ### Wrong lines -/

namespace Judgement

variable {ending : Ending} {c : Cursor} {l : Limits} {reason : FailReason} {v : Verdict}
variable {notes : Option (List Note)}

/-- Of the operations on wrong lines only the sum can go wrong. -/
theorem shownMismatches?_eq {threshold : Nat} (h : l.overflowThreshold? = some threshold)
    (hdiverged : c.diverged = true) :
    shownMismatches? c l = some (
      if threshold ≤ c.mismatches.toList.length then
        c.mismatches.toList.take (max l.wrongLines 1)
      else c.mismatches.toList) := by
  have hpos : 1 ≤ c.mismatches.toList.length := by
    have hne : c.mismatches.size ≠ 0 := by simpa [Cursor.diverged] using hdiverged
    rw [Array.length_toList]
    omega
  rw [shownMismatches?, h]
  generalize c.mismatches.toList = wrong at hpos ⊢
  simp only [Option.bind_eq_bind, Option.bind_some]
  split
  · -- The number of lines taken is moved between bounds, which changes nothing that is taken.
    have hfits : max 1 (min l.wrongLines wrong.length) ≤ wrong.length := by omega
    rw [clamp?_of_le hpos, Option.bind_some, take?_of_le hfits, Option.some_inj,
      List.take_eq_take_iff]
    omega
  · rfl

theorem mismatchNotes?_eq (c : Cursor) (l : Limits) :
    mismatchNotes? c l = (shownMismatches? c l).map fun wrong =>
      mismatchReport wrong ((lines c.expected).take wrong.length) := by
  rw [mismatchNotes?]
  cases shownMismatches? c l <;> rfl

/-- What is said if a wrong line is the reason. -/
theorem notes_of_outputMismatch (h : findings ending c l = some (.outputMismatch, notes)) :
    c.diverged = true ∧ notes = mismatchNotes? c l := by
  obtain ⟨herror, hline, hdiverged⟩ := reasonOf_eq_outputMismatch_iff.mp (reasonOf_of_findings h)
  refine ⟨hdiverged, ?_⟩
  cases ending with
  | errorOutput bytes => exact absurd ⟨bytes, rfl⟩ herror
  | unterminated => exact absurd rfl hline
  | closed | diverged | mismatchCap | brokenPipe | timeLimit =>
    simp only [findings, hdiverged, ↓reduceIte, Option.some.injEq, Prod.mk.injEq] at h
    exact h.2.symm

/-- The diagnostic if a wrong line is the reason. -/
theorem diagnostic_of_outputMismatch {wrong : List Bytes} (h : judge? ending c l = some v)
    (hreason : v.reason? = some .outputMismatch) (hshown : shownMismatches? c l = some wrong) :
    v.diagnostic =
      (mismatchReport wrong ((lines c.expected).take wrong.length)).flatMap Note.render := by
  rcases judge?_eq_some_iff.mp h with ⟨-, rfl⟩ | ⟨reason, notes, hfindings, rfl⟩
  · cases hreason
  · obtain rfl : reason = .outputMismatch := Option.some.inj hreason
    obtain ⟨-, hnotes⟩ := notes_of_outputMismatch hfindings
    rw [mismatchNotes?_eq, hshown] at hnotes
    rw [Option.some.inj hnotes]
    rfl

end Judgement

/-! ### Sections -/

/-- A part of a script as it is shown. -/
structure Section where
  part : Leftover
  /-- The lines that are shown. -/
  shown : List Bytes
  /-- The number of those that are not, if that is said. -/
  skipped : Option Nat

namespace Section

/-- What stands below the heading. -/
def body (s : Section) : List Note :=
  s.shown.map .quoted ++ (s.skipped.map fun count => .skipped count s.part.what).toList

/-- A section, with its heading. -/
def notes (s : Section) : List Note := .heading ("!!ERROR!! " ++ s.part.header) :: s.body

/-- A section says what became of every one of these lines. -/
structure Accounts (s : Section) (rest : List Bytes) (l : Limits) : Prop where
  all : rest.length < l.postCrashLines + l.overflowMargin → s.shown = rest ∧ s.skipped = none
  cut : l.postCrashLines + l.overflowMargin ≤ rest.length →
    s.shown = rest.take l.postCrashLines ∧ s.shown.length = l.postCrashLines ∧
      s.skipped = some (rest.length - l.postCrashLines)
  total : s.shown.length + s.skipped.getD 0 = rest.length
  length_lines_body : (lines (s.body.flatMap Note.render)).length ≤
    max (l.postCrashLines + l.overflowMargin - 1) (l.postCrashLines + 1)

theorem isLine_render_skipped (count : Nat) (part : Leftover) :
    IsLine (Note.skipped count part.what).render := by
  have hwhat : '\n' ∉ part.what.toList := by
    cases part <;> decide
  have hline : IsLine (ofString ("... (skipped " ++ toString count ++ " additional lines of " ++
      part.what ++ ")" ++ "\n")) := by
    apply isLine_ofString
    simp [notMem_toDigits, hwhat]
  have hrender : (Note.skipped count part.what).render = ofString ("... (skipped " ++
      toString count ++ " additional lines of " ++ part.what ++ ")" ++ "\n") := by
    simp only [Note.render, String.append_assoc]
    rfl
  rw [hrender]
  exact hline

/-- Every note below the heading takes up one line. -/
theorem isLine_of_mem_body {s : Section} {note : Note} (h : note ∈ s.body) :
    IsLine note.render := by
  rcases List.mem_append.mp h with hshown | hskipped
  · obtain ⟨line, -, rfl⟩ := List.mem_map.mp hshown
    exact isLine_quoteBytes line
  · rw [Option.mem_toList, Option.map_eq_some_iff] at hskipped
    obtain ⟨count, -, rfl⟩ := hskipped
    exact isLine_render_skipped count s.part

theorem length_lines_body (s : Section) :
    (lines (s.body.flatMap Note.render)).length = s.shown.length + s.skipped.toList.length := by
  have hlines : ∀ line ∈ s.body.map Note.render, IsLine line := by
    intro line hline
    obtain ⟨note, hnote, rfl⟩ := List.mem_map.mp hline
    exact isLine_of_mem_body hnote
  rw [List.flatMap_def, lines_flatten hlines, List.length_map, body, List.length_append,
    List.length_map]
  cases s.skipped <;> rfl

end Section

/-- The section of a part. -/
def Leftover.section (part : Leftover) (c : Cursor) (l : Limits) : Section :=
  let rest := lines (part.rest c)
  if rest.length < l.postCrashLines + l.overflowMargin then ⟨part, rest, none⟩
  else ⟨part, rest.take l.postCrashLines, some (rest.length - l.postCrashLines)⟩

namespace Leftover

variable (part : Leftover) (c : Cursor) (l : Limits)

@[simp] theorem part_section : (part.section c l).part = part := by
  rw [Leftover.section]
  split <;> rfl

/-- Of the operations on the lines of a part only the sum can go wrong. -/
theorem leftoverNotes?_eq :
    Judgement.leftoverNotes? part c l =
      if l.postCrashLines + l.overflowMargin < 2 ^ 64 then some (part.section c l).notes
      else none := by
  rw [Judgement.leftoverNotes?, Limits.leftoverThreshold?, Leftover.section]
  generalize lines (part.rest c) = rest
  by_cases hfits : l.postCrashLines + l.overflowMargin < 2 ^ 64
  · rw [if_pos hfits, add?_eq_some_iff.mpr ⟨rfl, hfits⟩]
    simp only [Option.bind_eq_bind, Option.bind_some]
    split
    · simp [Section.notes, Section.body]
    · next hlong =>
      -- As many lines as are taken are there because the threshold was reached.
      have hle : l.postCrashLines ≤ rest.length := by omega
      rw [take?_of_le hle, sub?_of_le hle]
      rfl
  · rw [if_neg hfits, add?_eq_none_iff.mpr (Nat.le_of_not_lt hfits)]
    rfl

theorem accounts_section : (part.section c l).Accounts (lines (part.rest c)) l := by
  have hlength := Section.length_lines_body (part.section c l)
  rw [Leftover.section] at hlength ⊢
  generalize lines (part.rest c) = rest at hlength ⊢
  split at hlength
  · next hshort =>
    rw [if_pos hshort]
    refine ⟨fun _ => ⟨rfl, rfl⟩, fun hlong => absurd hshort (Nat.not_lt.mpr hlong), rfl, ?_⟩
    rw [hlength]
    simp
    omega
  · next hlong =>
    rw [if_neg hlong]
    have hshown : (rest.take l.postCrashLines).length = l.postCrashLines := by
      rw [List.length_take]
      omega
    refine ⟨fun hshort => absurd hshort hlong, fun _ => ⟨rfl, hshown, rfl⟩, ?_, ?_⟩
    · simp only [hshown, Option.getD_some]
      omega
    · rw [hlength, hshown]
      exact Nat.le_max_right _ _

end Leftover

/-! ### What is left over -/

namespace Judgement

/-- The reasons for which a diagnostic shows what is left over. -/
def showsLeftovers : FailReason → Bool
  | .brokenPipe | .timeLimitExceeded | .unconsumedInput | .incompleteOutput => true
  | .outputMismatch | .stderrOutput | .unterminatedOutput => false

/-- These are the parts of a script that are left over, in order. -/
structure PartsLeft (reason : FailReason) (c : Cursor) (parts : List Leftover) : Prop where
  of_brokenPipe : reason = .brokenPipe → parts = [.unsentInput]
  of_other : reason ≠ .brokenPipe →
    parts.Sublist [.unreadInput, .missingOutput] ∧ (.unreadInput ∈ parts ↔ c.remainingInput ≠ []) ∧
      (.missingOutput ∈ parts ↔ c.expected ≠ [])

/-- What is said before the sections. -/
def opening : Ending → List Note
  | .timeLimit limit => [timeLimitHeading limit]
  | _ => []

/-- The parts that are left over when a program was not refused input. -/
def partsOf (c : Cursor) : List Leftover :=
  (if c.remainingInput = [] then [] else [.unreadInput]) ++
    (if c.expected = [] then [] else [.missingOutput])

/-- The parts that are shown for a reason. -/
def partsShown (reason : FailReason) (c : Cursor) : List Leftover :=
  match reason with
  | .brokenPipe => [.unsentInput]
  | .timeLimitExceeded | .unconsumedInput | .incompleteOutput => partsOf c
  | .outputMismatch | .stderrOutput | .unterminatedOutput => []

variable {ending : Ending} {c : Cursor} {l : Limits} {reason : FailReason} {v : Verdict}
variable {notes : Option (List Note)}

theorem partsOf_eq_nil_iff : partsOf c = [] ↔ c.remainingInput = [] ∧ c.expected = [] := by
  simp [partsOf]

theorem partsLeft_partsShown (h : showsLeftovers reason = true) :
    PartsLeft reason c (partsShown reason c) := by
  have hparts (hpipe : reason ≠ .brokenPipe) : PartsLeft reason c (partsOf c) := by
    refine ⟨fun heq => absurd heq hpipe, fun _ => ?_⟩
    unfold partsOf
    by_cases hinput : c.remainingInput = []
    · by_cases hexpected : c.expected = [] <;> simp [hinput, hexpected]
    · by_cases hexpected : c.expected = [] <;> simp [hinput, hexpected]
  cases reason with
  | brokenPipe => exact ⟨fun _ => rfl, fun hne => absurd rfl hne⟩
  | timeLimitExceeded | unconsumedInput | incompleteOutput => exact hparts (by decide)
  | outputMismatch | stderrOutput | unterminatedOutput => cases h

theorem leftoversNotes?_eq (c : Cursor) (l : Limits) :
    leftoversNotes? c l =
      if partsOf c = [] ∨ l.postCrashLines + l.overflowMargin < 2 ^ 64 then
        some ((partsOf c).flatMap fun part => (part.section c l).notes)
      else none := by
  rw [leftoversNotes?, Leftover.leftoverNotes?_eq, Leftover.leftoverNotes?_eq, partsOf]
  generalize 2 ^ 64 = bound
  by_cases hfits : l.postCrashLines + l.overflowMargin < bound
  · by_cases hinput : c.remainingInput = [] <;> by_cases hexpected : c.expected = [] <;>
      simp [hfits, hinput, hexpected]
  · by_cases hinput : c.remainingInput = [] <;> by_cases hexpected : c.expected = [] <;>
      simp [hfits, hinput, hexpected]

/-- What is said if it is shown what is left over: nothing can be said if there is a part to show
and the threshold is too large. -/
theorem notes_of_showsLeftovers (h : findings ending c l = some (reason, notes))
    (hshows : showsLeftovers reason = true) :
    notes =
      if partsShown reason c = [] ∨ l.postCrashLines + l.overflowMargin < 2 ^ 64 then
        some (opening ending ++ (partsShown reason c).flatMap fun part => (part.section c l).notes)
      else none := by
  cases hdiverged : c.diverged with
  | true =>
    have hhides : showsLeftovers reason = false := by
      cases ending with
      | errorOutput | unterminated =>
        obtain ⟨rfl, -⟩ := Prod.mk.inj (Option.some.inj h)
        rfl
      | closed | diverged | mismatchCap | brokenPipe | timeLimit =>
        simp only [findings, hdiverged, ↓reduceIte] at h
        obtain ⟨rfl, -⟩ := Prod.mk.inj (Option.some.inj h)
        rfl
    rw [hhides] at hshows
    cases hshows
  | false =>
    cases ending with
    | errorOutput | unterminated =>
      obtain ⟨rfl, -⟩ := Prod.mk.inj (Option.some.inj h)
      cases hshows
    | brokenPipe =>
      simp only [findings, hdiverged] at h
      obtain ⟨rfl, rfl⟩ := Prod.mk.inj (Option.some.inj h)
      rw [Leftover.leftoverNotes?_eq]
      simp [partsShown, opening]
    | timeLimit limit =>
      simp only [findings, hdiverged] at h
      obtain ⟨rfl, rfl⟩ := Prod.mk.inj (Option.some.inj h)
      rw [leftoversNotes?_eq, partsShown, opening]
      split <;> rfl
    | closed | diverged | mismatchCap =>
      simp only [findings, hdiverged, Bool.false_eq_true, ↓reduceIte] at h
      split at h
      · obtain ⟨rfl, rfl⟩ := Prod.mk.inj (Option.some.inj h)
        exact leftoversNotes?_eq c l
      · split at h
        · obtain ⟨rfl, rfl⟩ := Prod.mk.inj (Option.some.inj h)
          exact leftoversNotes?_eq c l
        · cases h

/-- The diagnostic if it is shown what is left over. -/
theorem diagnostic_of_showsLeftovers (h : judge? ending c l = some v)
    (hreason : v.reason? = some reason) (hshows : showsLeftovers reason = true) :
    v.diagnostic = (opening ending ++
      (partsShown reason c).flatMap fun part => (part.section c l).notes).flatMap Note.render := by
  rcases judge?_eq_some_iff.mp h with ⟨-, rfl⟩ | ⟨reason', notes, hfindings, rfl⟩
  · cases hreason
  · obtain rfl : reason' = reason := Option.some.inj hreason
    have hnotes := notes_of_showsLeftovers hfindings hshows
    split at hnotes
    · rw [← Option.some.inj hnotes]
      rfl
    · cases hnotes

/-! ### When there is a verdict -/

/-- What is said of error output is never cut. -/
theorem notes_of_stderrOutput (h : findings ending c l = some (.stderrOutput, notes)) :
    notes ≠ none := by
  obtain ⟨bytes, rfl⟩ := reasonOf_eq_stderrOutput_iff.mp (reasonOf_of_findings h)
  obtain ⟨-, rfl⟩ := Prod.mk.inj (Option.some.inj h)
  exact nofun

/-- What is said of output that ended inside a line is never cut. -/
theorem notes_of_unterminatedOutput (h : findings ending c l = some (.unterminatedOutput, notes)) :
    notes ≠ none := by
  obtain rfl := reasonOf_eq_unterminatedOutput_iff.mp (reasonOf_of_findings h)
  obtain ⟨-, rfl⟩ := Prod.mk.inj (Option.some.inj h)
  exact nofun

/-- A part of the script is shown in the verdict on a session. -/
def ShowsScript (ending : Ending) (c : Cursor) : Prop :=
  ∃ reason, reasonOf ending c = some reason ∧ partsShown reason c ≠ []

theorem showsScript_iff_of_right (herror : ∀ bytes, ending ≠ .errorOutput bytes)
    (hline : ending ≠ .unterminated) (hright : c.diverged = false) :
    ShowsScript ending c ↔ ending = .brokenPipe ∨ c.remainingInput ≠ [] ∨ c.expected ≠ [] := by
  have hparts : partsOf c ≠ [] ↔ c.remainingInput ≠ [] ∨ c.expected ≠ [] := by
    rw [ne_eq, partsOf_eq_nil_iff, not_and_or]
  rw [ShowsScript, reasonOf_of_right ending hright]
  cases ending with
  | errorOutput bytes => exact absurd rfl (herror bytes)
  | unterminated => exact absurd rfl hline
  | brokenPipe => simp [rightReason, partsShown]
  | timeLimit => simp [rightReason, partsShown, hparts]
  | closed | diverged | mismatchCap =>
    rw [rightReason, leftoverReason]
    by_cases hinput : c.remainingInput = []
    · by_cases hexpected : c.expected = []
      · simp [hinput, hexpected]
      · simp [hinput, hexpected, partsShown, hparts]
    · simp [hinput, partsShown, hparts]

/-- That is so if the output was right and something is left over, or was refused. -/
theorem showsScript_iff :
    ShowsScript ending c ↔
      (¬ ∃ bytes, ending = .errorOutput bytes) ∧ ending ≠ .unterminated ∧ c.diverged = false ∧
        (ending = .brokenPipe ∨ c.remainingInput ≠ [] ∨ c.expected ≠ []) := by
  have hhides (reason : FailReason) (hreason : reasonOf ending c = some reason)
      (hparts : partsShown reason c = []) : ¬ ShowsScript ending c := by
    rintro ⟨reason', hreason', hne⟩
    rw [hreason] at hreason'
    exact hne (Option.some.inj hreason' ▸ hparts)
  by_cases herror : ∃ bytes, ending = .errorOutput bytes
  · exact iff_of_false (hhides .stderrOutput (reasonOf_eq_stderrOutput_iff.mpr herror) rfl)
      fun h => h.1 herror
  · by_cases hline : ending = .unterminated
    · exact iff_of_false
        (hhides .unterminatedOutput (reasonOf_eq_unterminatedOutput_iff.mpr hline) rfl)
        fun h => h.2.1 hline
    · cases hdiverged : c.diverged with
      | true =>
        have hreason := reasonOf_eq_outputMismatch_iff.mpr ⟨herror, hline, hdiverged⟩
        exact iff_of_false (hhides .outputMismatch hreason rfl) (by simp)
      | false =>
        rw [showsScript_iff_of_right (not_exists.mp herror) hline hdiverged]
        simp [herror, hline]

/-- With a threshold for wrong lines, there is no verdict if and only if a part of the script is to
be shown and the threshold for that is too large. -/
theorem judge?_eq_none_iff {threshold : Nat} (hwrong : l.overflowThreshold? = some threshold) :
    judge? ending c l = none ↔
      2 ^ 64 ≤ l.postCrashLines + l.overflowMargin ∧ ShowsScript ending c := by
  rw [judge?]
  cases hfindings : findings ending c l with
  | none =>
    have hreason := findings_fst ending c l
    rw [hfindings] at hreason
    refine iff_of_false (Option.some_ne_none _) ?_
    rintro ⟨-, reason, hsome, -⟩
    rw [hsome] at hreason
    cases hreason
  | some found =>
    obtain ⟨reason, notes⟩ := found
    have hscript : ShowsScript ending c ↔ partsShown reason c ≠ [] := by
      rw [ShowsScript, reasonOf_of_findings hfindings]
      simp
    rw [Option.map_eq_none_iff, hscript]
    cases hshows : showsLeftovers reason with
    | true =>
      rw [notes_of_showsLeftovers hfindings hshows]
      split
      · next hfits =>
        exact iff_of_false (Option.some_ne_none _) fun h => hfits.elim h.2 (Nat.not_lt.mpr h.1)
      · next hlarge =>
        rw [not_or] at hlarge
        exact iff_of_true rfl ⟨Nat.le_of_not_lt hlarge.2, hlarge.1⟩
    | false =>
      -- What is said for the other reasons needs no threshold but that for wrong lines.
      have hparts : partsShown reason c = [] := by
        cases reason with
        | outputMismatch | stderrOutput | unterminatedOutput => rfl
        | brokenPipe | timeLimitExceeded | unconsumedInput | incompleteOutput => cases hshows
      have hsaid : notes ≠ none := by
        cases reason with
        | outputMismatch =>
          obtain ⟨hdiverged, rfl⟩ := notes_of_outputMismatch hfindings
          rw [mismatchNotes?_eq, shownMismatches?_eq hwrong hdiverged]
          simp
        | stderrOutput => exact notes_of_stderrOutput hfindings
        | unterminatedOutput => exact notes_of_unterminatedOutput hfindings
        | brokenPipe | timeLimitExceeded | unconsumedInput | incompleteOutput => cases hshows
      exact iff_of_false hsaid fun h => h.2 hparts

end Judgement

end Rehearsal
