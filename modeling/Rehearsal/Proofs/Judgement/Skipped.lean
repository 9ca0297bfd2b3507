import Rehearsal.Proofs.Judgement

/-!
# When a diagnostic says that lines are skipped

A section of a diagnostic may end in a note that so many lines are not shown. The note is looked
for where a reader finds it, among the lines of the diagnostic: nothing else that is written there
can be taken for it (`skipped_mem_lines_iff`), so it is there if and only if the part of the script
that the section shows reaches the threshold, and it states the number of the lines beyond the limit
(`saysSkipped_iff`).

With some slack, a part that reaches the threshold is longer than the limit. Without any, it may be
just as long, and then the note says that no lines are skipped after all of them were shown
(`skipped_counts_lines_iff`, and `nothing_is_skipped` for one such part).
-/

namespace Rehearsal

open Bytes

/-! ### The lines of a diagnostic -/

/-- The line with this text. -/
def lineOf (text : String) : Bytes := .ofString (text ++ "\n")

theorem lineOf_injective : Function.Injective lineOf := by
  intro text text' h
  have hlist := Utf8.ofChars_injective h
  rw [String.toList_append, String.toList_append] at hlist
  exact String.toList_inj.mp (List.append_cancel_right hlist)

namespace Note

/-- What is said of lines that are not shown. -/
def skippedText (count : Nat) (what : String) : String :=
  "... (skipped " ++ toString count ++ " additional lines of " ++ what ++ ")"

/-- The texts of the lines of a note, if it is made of lines. -/
def texts : Note → List String
  | heading text => ["", text]
  | quoted line => [quoteBytes line]
  | skipped count what => [skippedText count what]
  | verbatim _ => []

/-- A note as the sections of a diagnostic have it: lines, and a heading that calls out. -/
def IsShown : Note → Prop
  | heading text => '\n' ∉ text.toList ∧ ['!'] <+: text.toList
  | quoted _ => True
  | skipped _ what => '\n' ∉ what.toList
  | verbatim _ => False

variable {note : Note} {count count' : Nat} {what what' : String}

theorem toList_skippedText (count : Nat) (what : String) :
    (skippedText count what).toList =
      "... (skipped ".toList ++ (Nat.toDigits 10 count ++
        ' ' :: ("additional lines of ".toList ++ (what.toList ++ [')']))) := by
  have hdigits : (toString count).toList = Nat.toDigits 10 count := by simp
  show ("... (skipped " ++ toString count ++ " additional lines of " ++ what ++ ")").toList = _
  simp only [String.toList_append, List.append_assoc, hdigits]
  rfl

theorem skippedText_inj (h : skippedText count what = skippedText count' what') :
    count = count' ∧ what = what' := by
  have hlist := congrArg String.toList h
  rw [toList_skippedText, toList_skippedText, List.append_cancel_left_eq] at hlist
  obtain ⟨hcount, hrest⟩ := toDigits_append_inj (by decide) (by decide) hlist
  rw [List.cons_inj_right, List.append_cancel_left_eq] at hrest
  exact ⟨hcount, String.toList_inj.mp (List.append_cancel_right hrest)⟩

theorem newline_notMem_texts (h : note.IsShown) : ∀ text ∈ note.texts, '\n' ∉ text.toList := by
  cases note with
  | heading text => simpa [texts] using h.1
  | quoted line =>
    have hquote : '\n' ∉ (quoteBytes line).toList := by
      rw [quoteBytes, String.toList_ofList]
      exact Quoted.newline_notMem_quote _
    simpa [texts] using hquote
  | skipped count what =>
    intro text htext
    rw [List.mem_singleton.mp htext, toList_skippedText]
    simp only [List.mem_append, List.mem_cons, List.not_mem_nil, or_false, not_or]
    exact ⟨by decide, notMem_toDigits (by decide) count, by decide, by decide, h, by decide⟩
  | verbatim bytes => exact h.elim

theorem render_skipped (count : Nat) (what : String) :
    (skipped count what).render = lineOf (skippedText count what) := by
  show ofString ("... (skipped " ++ toString count ++ " additional lines of " ++ what ++ ")\n") =
    ofString ("... (skipped " ++ toString count ++ " additional lines of " ++ what ++ ")" ++ "\n")
  simp only [String.append_assoc]
  rfl

theorem render_eq (h : note.IsShown) : note.render = (note.texts.map lineOf).flatten := by
  cases note with
  | heading text =>
    show ofString ("\n" ++ text ++ "\n") = ofString ("" ++ "\n") ++ (lineOf text ++ [])
    rw [List.append_nil, String.append_assoc, ofString, String.toList_append, ofChars_append]
    rfl
  | quoted line => simp [render, texts, lineOf]
  | skipped count what =>
    rw [render_skipped, texts, List.map_singleton, List.flatten_singleton]
  | verbatim bytes => exact h.elim

/-- Headings call out and quoted lines begin with a quote, so the note is no part of another one. -/
theorem skippedText_mem_texts_iff (h : note.IsShown) :
    skippedText count what ∈ note.texts ↔ note = .skipped count what := by
  have hfirst : ∀ text : String, skippedText count what = text → ['.'] <+: text.toList := by
    rintro text rfl
    rw [toList_skippedText]
    exact ⟨_, rfl⟩
  cases note with
  | heading text =>
    refine iff_of_false (fun hmem => ?_) nofun
    rcases List.mem_pair.mp hmem with hempty | htext
    · exact absurd (hfirst _ hempty) (by decide)
    · obtain ⟨rest, hrest⟩ := h.2
      have hdot := hfirst _ htext
      rw [← hrest] at hdot
      simp at hdot
  | quoted line =>
    refine iff_of_false (fun hmem => ?_) nofun
    have hdot := hfirst _ (List.mem_singleton.mp hmem)
    rw [quoteBytes, String.toList_ofList, Quoted.quote] at hdot
    simp at hdot
  | skipped count' what' =>
    rw [texts, List.mem_singleton]
    constructor
    · intro hsame
      obtain ⟨rfl, rfl⟩ := skippedText_inj hsame
      rfl
    · rintro ⟨⟩
      rfl
  | verbatim bytes => exact h.elim

/-- The lines of a diagnostic are those of its notes. -/
theorem lines_flatMap_render {notes : List Note} (h : ∀ note ∈ notes, note.IsShown) :
    lines (notes.flatMap render) = (notes.flatMap texts).map lineOf := by
  have hrender : notes.flatMap render = ((notes.flatMap texts).map lineOf).flatten := by
    rw [List.map_flatMap, ← List.flatMap_id, List.flatMap_assoc]
    refine List.flatMap_congr fun note hnote => ?_
    rw [render_eq (h note hnote), List.flatMap_id]
  rw [hrender]
  apply lines_flatten
  intro line hline
  obtain ⟨text, htext, rfl⟩ := List.mem_map.mp hline
  obtain ⟨note, hnote, htext⟩ := List.mem_flatMap.mp htext
  exact isLine_ofString (newline_notMem_texts (h note hnote) text htext)

/-- The note is a line of a diagnostic only if it was put there. -/
theorem skipped_mem_lines_iff {notes : List Note} (h : ∀ note ∈ notes, note.IsShown) :
    (skipped count what).render ∈ lines (notes.flatMap render) ↔ .skipped count what ∈ notes := by
  rw [lines_flatMap_render h, render_skipped, List.mem_map_of_injective lineOf_injective,
    List.mem_flatMap]
  constructor
  · rintro ⟨note, hnote, htext⟩
    rwa [← (skippedText_mem_texts_iff (h note hnote)).mp htext]
  · intro hmem
    exact ⟨_, hmem, List.mem_singleton.mpr rfl⟩

end Note

/-! ### The notes of a section -/

theorem newline_notMem_fixedPlaces (places num den : Nat) :
    '\n' ∉ (fixedPlaces places num den).toList := by
  simp [fixedPlaces, notMem_toDigits]

namespace Leftover

variable {part part' : Leftover} {c : Cursor} {l : Limits} {count : Nat}

theorem what_injective : Function.Injective what := by
  intro part part' h
  cases part <;> cases part' <;> first | rfl | exact absurd h (by decide)

theorem newline_notMem_what (part : Leftover) : '\n' ∉ part.what.toList := by
  cases part <;> decide

theorem isShown_of_mem_notes {note : Note} (h : note ∈ (part.section c l).notes) :
    note.IsShown := by
  rcases List.mem_cons.mp h with rfl | hbody
  · rw [part_section]
    cases part <;> exact ⟨by decide +kernel, by decide +kernel⟩
  · rcases List.mem_append.mp hbody with hquoted | hskipped
    · obtain ⟨line, -, rfl⟩ := List.mem_map.mp hquoted
      exact True.intro
    · rw [Option.mem_toList, Option.map_eq_some_iff] at hskipped
      obtain ⟨count, -, rfl⟩ := hskipped
      exact newline_notMem_what _

/-- A section counts the lines beyond the limit, if the part reaches the threshold. -/
theorem skipped_mem_notes_iff :
    .skipped count part.what ∈ (part'.section c l).notes ↔
      part = part' ∧ l.postCrashLines + l.overflowMargin ≤ (lines (part.rest c)).length ∧
        count = (lines (part.rest c)).length - l.postCrashLines := by
  have hskipped : (part'.section c l).skipped =
      if (lines (part'.rest c)).length < l.postCrashLines + l.overflowMargin then none
      else some ((lines (part'.rest c)).length - l.postCrashLines) := by
    rw [Leftover.section]
    split <;> rfl
  have hmem : .skipped count part.what ∈ (part'.section c l).notes ↔
      (part'.section c l).skipped = some count ∧ part'.what = part.what := by
    simp [Section.notes, Section.body]
  rw [hmem, hskipped, what_injective.eq_iff]
  constructor
  · rintro ⟨hsome, rfl⟩
    split at hsome
    · cases hsome
    · next hlong => exact ⟨rfl, Nat.le_of_not_lt hlong, (Option.some.inj hsome).symm⟩
  · rintro ⟨rfl, hlong, rfl⟩
    exact ⟨if_neg (Nat.not_lt.mpr hlong), rfl⟩

end Leftover

namespace Judgement

variable {ending : Ending} {c : Cursor} {l : Limits} {part : Leftover} {count : Nat} {v : Verdict}

theorem isShown_of_mem_opening {note : Note} (h : note ∈ opening ending) : note.IsShown := by
  cases ending with
  | timeLimit limit =>
    obtain rfl := List.mem_singleton.mp h
    rw [timeLimitHeading, Note.IsShown, String.toList_append, String.toList_append]
    refine ⟨?_, ⟨_, rfl⟩⟩
    rw [List.mem_append, List.mem_append]
    rintro ((hbefore | htime) | hafter)
    · exact absurd hbefore (by decide)
    · exact newline_notMem_fixedPlaces _ _ _ htime
    · exact absurd hafter (by decide)
  | closed | diverged | mismatchCap | errorOutput | brokenPipe | unterminated => cases h

/-- A diagnostic for this reason shows this part of a script. -/
def ShowsPart (reason : FailReason) (c : Cursor) : Leftover → Prop
  | .unsentInput => reason = .brokenPipe
  | .unreadInput =>
    showsLeftovers reason = true ∧ reason ≠ .brokenPipe ∧ c.remainingInput ≠ []
  | .missingOutput => showsLeftovers reason = true ∧ reason ≠ .brokenPipe ∧ c.expected ≠ []

theorem PartsLeft.mem_iff {reason : FailReason} {parts : List Leftover}
    (h : PartsLeft reason c parts) (hshows : showsLeftovers reason = true) :
    part ∈ parts ↔ ShowsPart reason c part := by
  by_cases hpipe : reason = .brokenPipe
  · rw [h.of_brokenPipe hpipe]
    cases part <;> simp [ShowsPart, hpipe]
  · obtain ⟨hsublist, hinput, houtput⟩ := h.of_other hpipe
    cases part with
    | unsentInput => exact iff_of_false (fun hmem => by simpa using hsublist.subset hmem) hpipe
    | unreadInput => simp [ShowsPart, hinput, hshows, hpipe]
    | missingOutput => simp [ShowsPart, houtput, hshows, hpipe]

theorem ShowsPart.showsLeftovers {reason : FailReason} (h : ShowsPart reason c part) :
    showsLeftovers reason = true := by
  cases part with
  | unsentInput =>
    obtain rfl : reason = .brokenPipe := h
    rfl
  | unreadInput | missingOutput => exact h.1

/-- In the diagnostic of a verdict it is said, of a part of a script that is left over, that so many
lines are not shown. -/
def SaysSkipped (v : Verdict) (part : Leftover) (count : Nat) : Prop :=
  (∃ reason, v.reason? = some reason ∧ showsLeftovers reason = true) ∧
    (Note.skipped count part.what).render ∈ lines v.diagnostic

/-- It is said of the parts that are shown and reach the threshold, and the number is that of the
lines beyond the limit. -/
theorem saysSkipped_iff (hverdict : judge? ending c l = some v) :
    SaysSkipped v part count ↔
      (∃ reason, v.reason? = some reason ∧ ShowsPart reason c part) ∧
        l.postCrashLines + l.overflowMargin ≤ (lines (part.rest c)).length ∧
          count = (lines (part.rest c)).length - l.postCrashLines := by
  have hline (reason : FailReason) (hreason : v.reason? = some reason)
      (hshows : showsLeftovers reason = true) :
      (Note.skipped count part.what).render ∈ lines v.diagnostic ↔
        ShowsPart reason c part ∧
          l.postCrashLines + l.overflowMargin ≤ (lines (part.rest c)).length ∧
            count = (lines (part.rest c)).length - l.postCrashLines := by
    rw [diagnostic_of_showsLeftovers hverdict hreason hshows, Note.skipped_mem_lines_iff ?_,
      ← (partsLeft_partsShown hshows).mem_iff hshows]
    · have hopening : .skipped count part.what ∉ opening ending := by
        cases ending <;> simp [opening, timeLimitHeading]
      simp only [List.mem_append, hopening, false_or, List.mem_flatMap,
        Leftover.skipped_mem_notes_iff]
      constructor
      · rintro ⟨part', hpart, rfl, hlong, hcount⟩
        exact ⟨hpart, hlong, hcount⟩
      · rintro ⟨hpart, hlong, hcount⟩
        exact ⟨part, hpart, rfl, hlong, hcount⟩
    · intro note hnote
      rcases List.mem_append.mp hnote with hopening | hsection
      · exact isShown_of_mem_opening hopening
      · obtain ⟨part', -, hnote⟩ := List.mem_flatMap.mp hsection
        exact Leftover.isShown_of_mem_notes hnote
  constructor
  · rintro ⟨⟨reason, hreason, hshows⟩, hmem⟩
    obtain ⟨hpart, hcount⟩ := (hline reason hreason hshows).mp hmem
    exact ⟨⟨reason, hreason, hpart⟩, hcount⟩
  · rintro ⟨⟨reason, hreason, hpart⟩, hcount⟩
    have hshows := hpart.showsLeftovers
    exact ⟨⟨reason, hreason, hshows⟩, (hline reason hreason hshows).mpr ⟨hpart, hcount⟩⟩

/-- **What is said of lines that are not shown.** The number is that of the lines of a part that are
not among the first ones, up to the limit. It is never zero, whatever a session came to, unless
there is no slack and a part that is shown has just as many lines as the limit says. -/
theorem skipped_counts_lines_iff (ending : Ending) (c : Cursor) (l : Limits) :
    (∀ v part count, judge? ending c l = some v → SaysSkipped v part count →
      count = ((lines (part.rest c)).drop l.postCrashLines).length) ∧
    ((∀ v part count, judge? ending c l = some v → SaysSkipped v part count → 1 ≤ count) ↔
      ¬ (l.overflowMargin = 0 ∧ ∃ v reason part, judge? ending c l = some v ∧
        v.reason? = some reason ∧ ShowsPart reason c part ∧
          (lines (part.rest c)).length = l.postCrashLines)) := by
  refine ⟨fun v part count hverdict h => ?_, ?_⟩
  · rw [List.length_drop]
    exact ((saysSkipped_iff hverdict).mp h).2.2
  constructor
  · rintro hcounts ⟨hslack, v, reason, part, hverdict, hreason, hshows, hlength⟩
    have hnone : SaysSkipped v part 0 :=
      (saysSkipped_iff hverdict).mpr ⟨⟨reason, hreason, hshows⟩, by omega, by omega⟩
    exact absurd (hcounts v part 0 hverdict hnone) (by decide)
  · intro hnot v part count hverdict h
    obtain ⟨⟨reason, hreason, hshows⟩, hlong, rfl⟩ := (saysSkipped_iff hverdict).mp h
    by_contra hzero
    exact hnot ⟨by omega, v, reason, part, hverdict, hreason, hshows, by omega⟩

/-- Without slack, a line that is all that is left over is shown, and then no lines are skipped. -/
theorem nothing_is_skipped :
    ¬ ∀ (ending : Ending) (c : Cursor) (l : Limits), l.postCrashLines + l.overflowMargin < 2 ^ 64 →
      ∀ v part count, judge? ending c l = some v → SaysSkipped v part count → 1 ≤ count := by
  intro h
  have hverdict : ∃ v, judge? .closed (.start [] [97, 10]) ⟨1, 10, 0⟩ = some v ∧
      SaysSkipped v .missingOutput 0 :=
    ⟨_, rfl, ⟨.incompleteOutput, rfl, rfl⟩, by decide +kernel⟩
  obtain ⟨v, hv, hsays⟩ := hverdict
  exact absurd (h .closed (.start [] [97, 10]) ⟨1, 10, 0⟩ (by decide) v .missingOutput 0 hv hsays)
    (by decide)

end Judgement

end Rehearsal
