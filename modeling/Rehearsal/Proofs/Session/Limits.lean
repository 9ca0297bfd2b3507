import Rehearsal.Proofs.Cursor
import Rehearsal.Proofs.Session.Verdict

/-!
# Limits do not decide

The limits on what a diagnostic shows also say when a session stops: at so many wrong lines. Two
runs over the same events, under limits that differ, are compared here.

They are the same as long as the smaller threshold is not reached. When it is, one of them is over,
with a wrong line on record. The other may go on, but a session that has seen a wrong line can only
see more of them (`Overtaken.step`), and a wrong line is enough for the test to fail
(`Judgement.reasonOf_of_diverged`). `step_of_cap_le` says this of one event, `Reaches.of_cap_le` of
the time before the end, and `Run.of_cap_le` of a whole run.

The main statement, `Run.same_verdict_under_limits`, is what that means for the verdicts. If there
were no wrong lines, one of the two may be missing: the limits also say at which sum the rest of a
script is cut, and there is no verdict where that is too large (`one_of_two_without_verdict`).
-/

namespace Rehearsal

open Bytes

namespace Judgement

variable {ending : Ending} {c : Cursor} {l : Limits}

/-- With a wrong line on record a test fails, and for one of three reasons. -/
theorem reasonOf_of_diverged (ending : Ending) (hwrong : c.diverged = true) :
    reasonOf ending c ∈
      [some .outputMismatch, some .stderrOutput, some .unterminatedOutput] := by
  by_cases herror : ∃ bytes, ending = .errorOutput bytes
  · rw [reasonOf_eq_stderrOutput_iff.mpr herror]
    simp
  · by_cases hline : ending = .unterminated
    · rw [reasonOf_eq_unterminatedOutput_iff.mpr hline]
      simp
    · rw [reasonOf_of_wrong hwrong (not_exists.mp herror) hline]
      simp

theorem not_pass_of_diverged (hwrong : c.diverged = true) : judge? ending c l ≠ some .pass := by
  rw [ne_eq, judge?_eq_pass_iff]
  intro hnone
  have hreason := reasonOf_of_diverged ending hwrong
  rw [hnone] at hreason
  simp at hreason

/-- With a wrong line on record there is a verdict, since nothing of the script is to be shown. -/
theorem judge?_of_diverged {threshold : Nat} (hthreshold : l.overflowThreshold? = some threshold)
    (hwrong : c.diverged = true) :
    ∃ verdict, judge? ending c l = some verdict ∧ verdict.reason? ∈
      [some .outputMismatch, some .stderrOutput, some .unterminatedOutput] := by
  have hverdict : judge? ending c l ≠ none := by
    rw [ne_eq, judge?_eq_none_iff hthreshold, showsScript_iff, hwrong]
    simp
  obtain ⟨verdict, hsome⟩ := Option.ne_none_iff_exists'.mp hverdict
  refine ⟨verdict, hsome, ?_⟩
  rw [reason?_of_judge? hsome]
  exact reasonOf_of_diverged ending hwrong

end Judgement

namespace Session

variable {k k₁ k₂ : Comparator} {s₀ s t u : Session} {e : Event} {events : List Event}
variable {ending : Ending}

open Judgement

/-! ### After a wrong line -/

/-- Whatever an event does to a session, to what its cursor expects and has found wrong it does
what some lines of output do. -/
theorem step_records (k : Comparator) (s : Session) (e : Event) :
    ∃ right wrong, s.cursor.Records right wrong (s.step k e).session.cursor := by
  obtain ⟨ops, hops⟩ := step_operates k s e
  rw [hops]
  exact s.cursor.operateAll_records ops

/-- The first session has seen a wrong line, and the second has found what the first has and after
that nothing but wrong lines. -/
def Overtaken (t s : Session) : Prop :=
  t.cursor.diverged = true ∧ ∃ wrong, t.cursor.Records [] wrong s.cursor

namespace Overtaken

/-- The second session may go on. -/
theorem step (h : Overtaken t s) (k : Comparator) (e : Event) :
    Overtaken t (s.step k e).session := by
  obtain ⟨hwrong, wrong, hs⟩ := h
  obtain ⟨right, later, hlater⟩ := step_records k s e
  obtain rfl : right = [] := hlater.right_nil (hs.diverged hwrong)
  exact ⟨hwrong, wrong ++ later, hs.trans hlater⟩

theorem expected_eq (h : Overtaken t s) : t.cursor.expected = s.cursor.expected := by
  obtain ⟨-, wrong, hs⟩ := h
  exact hs.expected_eq.symm

theorem mismatches_prefix (h : Overtaken t s) :
    t.cursor.mismatches.toList <+: s.cursor.mismatches.toList := by
  obtain ⟨-, wrong, hs⟩ := h
  exact hs.mismatches_prefix

theorem diverged (h : Overtaken t s) : s.cursor.diverged = true := by
  obtain ⟨hwrong, wrong, hs⟩ := h
  exact hs.diverged hwrong

end Overtaken

/-! ### Two caps -/

/-- One event does the same under both caps, or under the smaller one it ends the session. -/
theorem step_of_cap_le (hcap : k₁.cap ≤ k₂.cap) (s : Session) (e : Event) :
    s.step k₁ e = s.step k₂ e ∨
      ∃ t, Stops k₁ s e .mismatchCap t ∧ Overtaken t (s.step k₂ e).session := by
  cases e with
  | output chunk =>
    rcases Comparator.feed_of_cap_le s.cursor s.echo hcap chunk with heq | ⟨hstop, hwrong, hs⟩
    · left
      rw [Session.step, Session.step, stepOutput, stepOutput, heq]
    · refine .inr ⟨_, .mismatchCap hstop, hwrong, ?_⟩
      rw [Session.step, stepOutput]
      -- However the other comparison comes out, its cursor is that of the session.
      cases (k₂.feed s.cursor chunk s.echo).flow with
      | more | stop | echoFull => exact hs
  | outputEnd | errorOutput chunk | errorEnd | accepted count | refused | quiet =>
    exact .inl rfl
  | broken stream cause => exact .inl rfl

theorem Reaches.stop (h : Reaches k s₀ events s) (henabled : s.Enabled e)
    (hstops : Stops k s e ending t) : Run k s₀ (events ++ [e]) ending t := by
  have hstep : s.step k e = .ended ending t := step_eq_ended_iff.mpr hstops
  refine ⟨(admits_append k s₀ events [e]).mpr ⟨h.admits, ?_⟩, ?_⟩
  · rw [h.play]
    refine ⟨henabled, ?_⟩
    rw [hstep]
  · rw [h.play_concat, hstep]
    exact .ended ending t

/-- A session that waits under the larger cap waits under the smaller one, or it was ended by
that. -/
theorem Reaches.of_cap_le (hcap : k₁.cap ≤ k₂.cap) (h : Reaches k₂ s₀ events s) :
    Reaches k₁ s₀ events s ∨
      ∃ first later t, events = first ++ later ∧ Run k₁ s₀ first .mismatchCap t ∧
        Overtaken t s := by
  induction h using Reaches.induction with
  | start => exact .inl (.nil k₁ s₀)
  | move past s e t hpast henabled hmoves ih =>
    have hstep : s.step k₂ e = .running t := step_eq_running_iff.mpr hmoves
    rcases ih with hwaits | ⟨first, later, u, rfl, hrun, hu⟩
    · rcases step_of_cap_le hcap s e with heq | ⟨u, hstops, hu⟩
      · rw [hstep, step_eq_running_iff] at heq
        exact .inl (hwaits.concat henabled heq)
      · -- Here the two part: this event is the end under the smaller cap.
        rw [hstep] at hu
        exact .inr ⟨past ++ [e], [], u, (List.append_nil _).symm, hwaits.stop henabled hstops, hu⟩
    · have hlater := hu.step k₂ e
      rw [hstep] at hlater
      exact .inr ⟨first, later ++ [e], u, List.append_assoc first later [e], hrun, hlater⟩

/-- A run under the larger cap is a run under the smaller one, or that is over after some of the
events. -/
theorem Run.of_cap_le (hcap : k₁.cap ≤ k₂.cap) (h : Run k₂ s₀ events ending s) :
    Run k₁ s₀ events ending s ∨
      ∃ first later t, events = first ++ later ∧ Run k₁ s₀ first .mismatchCap t ∧
        Overtaken t s := by
  -- A run is cut off by the clock while the session waits, or its last event ends the session.
  rcases h.cut_or_stopped with ⟨limit, rfl, hwaits⟩ | ⟨past, e, u, rfl, hu, henabled, hstops⟩
  · rcases hwaits.of_cap_le hcap with hwaits₁ | hover
    · refine .inl ⟨hwaits₁.admits, ?_⟩
      rw [hwaits₁.play]
      exact .timeUp limit s
    · exact .inr hover
  · have hstep : u.step k₂ e = .ended ending s := step_eq_ended_iff.mpr hstops
    rcases hu.of_cap_le hcap with hwaits | ⟨first, later, t, rfl, hrun, ht⟩
    · rcases step_of_cap_le hcap u e with heq | ⟨t, hstops₁, ht⟩
      · rw [hstep, step_eq_ended_iff] at heq
        exact .inl (hwaits.stop henabled heq)
      · rw [hstep] at ht
        exact .inr
          ⟨past ++ [e], [], t, (List.append_nil _).symm, hwaits.stop henabled hstops₁, ht⟩
    · have hlater := ht.step k₂ e
      rw [hstep] at hlater
      exact .inr ⟨first, later ++ [e], t, List.append_assoc first later [e], hrun, hlater⟩

/-! ### Two limits -/

/-- **Limits do not decide whether a test passes.** Take a run under some limits, and limits with a
threshold that is not larger. Under these the run is over at the same event or an earlier one, and
it passes if and only if it passes under the others. If no line was wrong, the two runs are the
same, and so are the reasons of their verdicts; only, under limits with a sum that is too large,
there is no verdict where a rest of the script is to be shown. If some were, one run has recorded
the first of the wrong lines of the other, both still expect the same, and both fail for one of
three reasons. -/
theorem Run.same_verdict_under_limits {input expected : Bytes} {echo : Sink} {l₁ l₂ : Limits}
    {threshold₁ threshold₂ : Nat} (hthreshold₁ : l₁.overflowThreshold? = some threshold₁)
    (hthreshold₂ : l₂.overflowThreshold? = some threshold₂) (hle : threshold₁ ≤ threshold₂)
    (h : Run (.ofThreshold threshold₂) (.start input expected echo) events ending s) :
    ∃ first later ending₁ s₁, events = first ++ later ∧
      Run (.ofThreshold threshold₁) (.start input expected echo) first ending₁ s₁ ∧
      (∀ limit, ending₁ = .timeLimit limit → later = [] ∧ ending = .timeLimit limit) ∧
      (judge? ending₁ s₁.cursor l₁ = some .pass ↔ judge? ending s.cursor l₂ = some .pass) ∧
      (s₁.cursor.mismatches = #[] ↔ s.cursor.mismatches = #[]) ∧
      (s.cursor.mismatches = #[] →
        later = [] ∧ ending₁ = ending ∧ s₁ = s ∧
          (∀ v₁ v₂, judge? ending₁ s₁.cursor l₁ = some v₁ → judge? ending s.cursor l₂ = some v₂ →
            v₁.reason? = v₂.reason?) ∧
          ∀ l ∈ [l₁, l₂], judge? ending s.cursor l = none ↔
            2 ^ 64 ≤ l.postCrashLines + l.overflowMargin ∧ ShowsScript ending s.cursor) ∧
      (s.cursor.mismatches ≠ #[] →
        s₁.cursor.mismatches.toList <+: s.cursor.mismatches.toList ∧
          s₁.cursor.expected = s.cursor.expected ∧
          (∃ v₁, judge? ending₁ s₁.cursor l₁ = some v₁ ∧ v₁.reason? ∈
            [some .outputMismatch, some .stderrOutput, some .unterminatedOutput]) ∧
          ∃ v₂, judge? ending s.cursor l₂ = some v₂ ∧ v₂.reason? ∈
            [some .outputMismatch, some .stderrOutput, some .unterminatedOutput]) := by
  have hcap : (Comparator.ofThreshold threshold₁).cap ≤ (Comparator.ofThreshold threshold₂).cap :=
    Nat.max_le.mpr ⟨Nat.le_trans hle (Nat.le_max_left _ _), Nat.le_max_right _ _⟩
  rcases h.of_cap_le hcap with hrun | ⟨first, later, t, rfl, hrun, ht⟩
  · refine ⟨events, [], ending, s, (List.append_nil _).symm, hrun, fun _ hlimit => ⟨rfl, hlimit⟩,
      ?_, Iff.rfl, fun _ => ⟨rfl, rfl, rfl, fun v₁ v₂ hv₁ hv₂ => ?_, fun l hl => ?_⟩,
      fun hwrong => ?_⟩
    · rw [judge?_eq_pass_iff, judge?_eq_pass_iff]
    · rw [reason?_of_judge? hv₁, reason?_of_judge? hv₂]
    · rcases List.mem_pair.mp hl with rfl | rfl
      · exact judge?_eq_none_iff hthreshold₁
      · exact judge?_eq_none_iff hthreshold₂
    · have hwrong := Cursor.diverged_iff_ne_empty.mpr hwrong
      exact ⟨List.prefix_refl _, rfl, judge?_of_diverged hthreshold₁ hwrong,
        judge?_of_diverged hthreshold₂ hwrong⟩
  · -- The smaller threshold was reached: there are wrong lines on both sides.
    have hwrong₁ := Cursor.diverged_iff_ne_empty.mp ht.1
    have hwrong := Cursor.diverged_iff_ne_empty.mp ht.diverged
    refine ⟨first, later, .mismatchCap, t, rfl, hrun, ?_, ?_, iff_of_false hwrong₁ hwrong,
      fun hnone => absurd hnone hwrong, fun _ => ?_⟩
    · rintro limit ⟨⟩
    · exact iff_of_false (not_pass_of_diverged ht.1) (not_pass_of_diverged ht.diverged)
    · exact ⟨ht.mismatches_prefix, ht.expected_eq, judge?_of_diverged hthreshold₁ ht.1,
        judge?_of_diverged hthreshold₂ ht.diverged⟩

/-- Three wrong lines and the end of the output. With a threshold of two lines the run is over
before the third of them. -/
theorem same_verdict_under_limits_of_three_wrong_lines :
    let events : List Event :=
      [.output [98, 10, 99, 10], .output [100, 10], .outputEnd, .errorEnd]
    let small : Limits := { wrongLines := 1, overflowMargin := 1 }
    let s := ((start [] [97, 10] {}).play (.ofThreshold 15) events).session
    small.overflowThreshold? = some 2 ∧ Limits.overflowThreshold? {} = some 15 ∧ 2 ≤ 15 ∧
      Run (.ofThreshold 15) (.start [] [97, 10] {}) events .closed s ∧
      ∃ first later ending₁ s₁, events = first ++ later ∧
        Run (.ofThreshold 2) (.start [] [97, 10] {}) first ending₁ s₁ ∧
        judge? ending₁ s₁.cursor small ≠ some .pass ∧ s₁.cursor.expected = [97, 10] := by
  intro events small s
  have hsmall : small.overflowThreshold? = some 2 := rfl
  have hlarge : Limits.overflowThreshold? {} = some 15 := rfl
  have hle : 2 ≤ 15 := by decide
  have hrun : Run (.ofThreshold 15) (.start [] [97, 10] {}) events .closed s :=
    ⟨by decide, .ended .closed s⟩
  obtain ⟨first, later, ending₁, s₁, hevents, hrun₁, -, hpass, -, -, hwrong⟩ :=
    hrun.same_verdict_under_limits hsmall hlarge hle
  refine ⟨hsmall, hlarge, hle, hrun, first, later, ending₁, s₁, hevents, hrun₁, ?_, ?_⟩
  · rw [ne_eq, hpass]
    decide
  · exact (hwrong (by decide)).2.1.trans (by decide)

/-- Two limits with one threshold for wrong lines, and a run without any. Both are valid, but the
slack is too much for the larger one. -/
theorem one_of_two_without_verdict :
    let l₁ : Limits := {}
    let l₂ : Limits := { postCrashLines := 2 ^ 64 - 1 }
    let expected : Bytes := [49, 10, 50, 10, 51, 10, 52, 10]
    let events : List Event := [.outputEnd, .quiet]
    let s := ((start [] expected {}).play (.ofThreshold 15) events).session
    l₁.isValid = true ∧ l₂.isValid = true ∧
      l₁.overflowThreshold? = some 15 ∧ l₂.overflowThreshold? = some 15 ∧
      Run (.ofThreshold 15) (.start [] expected {}) events .closed s ∧
      s.cursor.mismatches = #[] ∧
      (judge? .closed s.cursor l₁).map Verdict.reason? = some (some .incompleteOutput) ∧
      judge? .closed s.cursor l₂ = none :=
  ⟨rfl, rfl, rfl, rfl, ⟨by decide, .ended .closed _⟩, rfl, by decide, by decide⟩

end Session

end Rehearsal
