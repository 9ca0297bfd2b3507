import Rehearsal.Proofs.Session.Run

/-!
# How output is cut into reads

Output comes in reads, and where one read ends and the next begins is up to the program and the
system between. No comparison depends on it: a list of lines that is cut in two is compared part by
part (`compareLines_append`), and what is kept of an unfinished line between two reads is put in
front of the second (`feed_append`). This holds from any cursor, with any cap, and also if the
comparison stops or the sink refuses a line: what comes after that is not looked at, whether it
belongs to the same read or to the next.

So a session cannot tell two reads from one (`play_split_output`), and what was a run with the one
is a run with the two, which ends the same way; only the second read does not come any more if the
first already ends the session (`Run.split_output`). `output_cut_anywhere` puts these together.
-/

namespace Rehearsal

/-- Go on after a comparison, unless it was stopped. -/
def Fed.andThen (fed : Fed) (next : Cursor → Sink → Fed) : Fed :=
  match fed.flow with
  | .more => next fed.cursor fed.echo
  | _ => fed

theorem Fed.andThen_of_more {fed : Fed} (h : fed.flow = .more) (next : Cursor → Sink → Fed) :
    fed.andThen next = next fed.cursor fed.echo := by
  rw [andThen, h]

theorem Fed.andThen_of_not_more {fed : Fed} (h : fed.flow ≠ .more) (next : Cursor → Sink → Fed) :
    fed.andThen next = fed := by
  rw [andThen]
  split
  · next hmore => exact absurd hmore h
  · rfl

namespace Comparator

open Bytes

variable (k : Comparator) (c : Cursor) (echo : Sink)

/-- Lines are compared part by part. -/
theorem compareLines_append (lines later : List Bytes) :
    k.compareLines c echo (lines ++ later) =
      (k.compareLines c echo lines).andThen fun c echo => k.compareLines c echo later := by
  induction lines generalizing c echo with
  | nil => rfl
  | cons line lines ih =>
    rw [List.cons_append, compareLines, compareLines]
    split
    · cases echo.write line with
      | error full => rfl
      | ok echo => exact ih (c.consumeExpected line) echo
    · dsimp only
      split
      · rfl
      · exact ih (c.addMismatch line) echo

/-- The lines that two reads complete: those that the first completes, and then those that the
second completes with what the first leaves unfinished. -/
theorem compareCompleted_append (first second : Bytes) :
    k.compareCompleted c (first ++ second) echo =
      (k.compareCompleted c first echo).andThen fun d echo =>
        k.compareCompleted { d with carry := (splitLines (c.carry ++ first)).2 } second echo := by
  have hcarry : (k.compareCompleted c first echo).cursor.carry = [] := by
    rw [compareCompleted, compareLines_frame]
  have hcursor : { (k.compareCompleted c first echo).cursor with carry := [] } =
      (k.compareCompleted c first echo).cursor := by
    rw [← hcarry]
  rw [compareCompleted, ← List.append_assoc, splitLines_append, compareLines_append,
    ← compareCompleted]
  by_cases hmore : (k.compareCompleted c first echo).flow = .more
  · rw [Fed.andThen_of_more hmore, Fed.andThen_of_more hmore]
    nth_rewrite 1 [← hcursor]
    rfl
  · rw [Fed.andThen_of_not_more hmore, Fed.andThen_of_not_more hmore]

/-- **Two reads are compared like one**, however the first comes out. -/
theorem feed_append (first second : Bytes) :
    k.feed c (first ++ second) echo =
      (k.feed c first echo).andThen fun c echo => k.feed c second echo := by
  have hrest : (splitLines (c.carry ++ (first ++ second))).2 =
      (splitLines ((splitLines (c.carry ++ first)).2 ++ second)).2 := by
    rw [← List.append_assoc, splitLines_append]
  have hcompleted := k.compareCompleted_append c echo first second
  by_cases hmore : (k.feed c first echo).flow = .more
  · have hfirst := hmore
    rw [feed_flow] at hfirst
    rw [Fed.andThen_of_more hfirst] at hcompleted
    rw [Fed.andThen_of_more hmore, feed_eq, hcompleted, hrest, feed_eq k c first, if_pos hfirst]
    rw [feed_eq]
  · have hfirst := hmore
    rw [feed_flow] at hfirst
    rw [Fed.andThen_of_not_more hfirst] at hcompleted
    rw [Fed.andThen_of_not_more hmore, feed_eq, hcompleted, feed_eq, if_neg hfirst, if_neg hfirst]

end Comparator

namespace Session

variable {k : Comparator} {s₀ s : Session} {past later : List Event} {first second : Bytes}
variable {ending : Ending}

/-! ### From reads to runs -/

/-- If the first part of a read does not end the session, the second part comes to what the whole
comes to. -/
theorem step_output_append_of_more (hmore : (k.feed s.cursor first s.echo).flow = .more)
    (second : Bytes) :
    ∃ u, s.step k (.output first) = .running u ∧ u.stdoutOpen = s.stdoutOpen ∧
      s.step k (.output (first ++ second)) = u.step k (.output second) := by
  refine ⟨_, step_eq_running_iff.mpr (.output hmore), rfl, ?_⟩
  rw [step, step, stepOutput, stepOutput, Comparator.feed_append, Fed.andThen_of_more hmore]

/-- If it does, it ends the session as the whole does. -/
theorem step_output_append_of_not_more (hmore : (k.feed s.cursor first s.echo).flow ≠ .more)
    (second : Bytes) :
    s.step k (.output (first ++ second)) = s.step k (.output first) ∧
      ∀ u, s.step k (.output first) ≠ .running u := by
  constructor
  · rw [step, step, stepOutput, stepOutput, Comparator.feed_append, Fed.andThen_of_not_more hmore]
  · intro u hu
    cases step_eq_running_iff.mp hu with
    | output hflow => exact hmore hflow

/-- What comes after the event that ends a session is not looked at. -/
theorem play_cons_of_ended {e : Event} (hended : ∀ u, s.step k e ≠ .running u)
    (later : List Event) : s.play k (e :: later) = s.step k e := by
  rw [play]
  cases hstep : s.step k e with
  | running u => exact absurd hstep (hended u)
  | ended ending t => rfl
  | failed failure t => rfl

/-- A session cannot tell two reads from one. -/
theorem play_split_output (k : Comparator) (s : Session) (first second : Bytes)
    (later : List Event) :
    s.play k (.output (first ++ second) :: later) =
      s.play k (.output first :: .output second :: later) := by
  by_cases hmore : (k.feed s.cursor first s.echo).flow = .more
  · obtain ⟨u, hu, -, hwhole⟩ := step_output_append_of_more hmore second
    rw [play, play, hu, hwhole]
    rfl
  · obtain ⟨hwhole, hended⟩ := step_output_append_of_not_more hmore second
    have hwholeEnded : ∀ u, s.step k (.output (first ++ second)) ≠ .running u := by
      rw [hwhole]
      exact hended
    rw [play_cons_of_ended hended, play_cons_of_ended hwholeEnded, hwhole]

/-- What a session admits with one read it admits with two, unless the first ends it. -/
theorem Admits.split_output (hfirst : first ≠ []) (hsecond : second ≠ [])
    (h : s.Admits k (.output (first ++ second) :: later)) :
    s.Admits k (.output first :: .output second :: later) ∨
      later = [] ∧ s.Admits k [.output first] ∧ ∀ u, s.step k (.output first) ≠ .running u := by
  obtain ⟨henabled, hlater⟩ := h
  have hopen : s.Enabled (.output first) := ⟨henabled.1, hfirst⟩
  by_cases hmore : (k.feed s.cursor first s.echo).flow = .more
  · left
    obtain ⟨u, hu, hout, hwhole⟩ := step_output_append_of_more hmore second
    refine ⟨hopen, ?_⟩
    rw [hu]
    refine ⟨⟨hout.trans henabled.1, hsecond⟩, ?_⟩
    rw [← hwhole]
    exact hlater
  · right
    obtain ⟨hwhole, hended⟩ := step_output_append_of_not_more hmore second
    rw [hwhole] at hlater
    cases hstep : s.step k (.output first) with
    | running u => exact absurd hstep (hended u)
    | ended ending t =>
      rw [hstep] at hlater
      refine ⟨hlater, ⟨hopen, ?_⟩, by simp⟩
      rw [hstep]
    | failed failure t =>
      rw [hstep] at hlater
      refine ⟨hlater, ⟨hopen, ?_⟩, by simp⟩
      rw [hstep]

/-- A run with one read is a run with two that ends the same way, or the first of the two already
ends it. -/
theorem Run.split_output (hfirst : first ≠ []) (hsecond : second ≠ [])
    (h : Run k s₀ (past ++ .output (first ++ second) :: later) ending s) :
    Run k s₀ (past ++ .output first :: .output second :: later) ending s ∨
      later = [] ∧ Run k s₀ (past ++ [.output first]) ending s := by
  obtain ⟨hpast, hnext⟩ := (admits_append k s₀ past _).mp h.admits
  have hconcludes := h.concludes
  cases hplay : s₀.play k past with
  | ended ending' t =>
    rw [hplay] at hnext
    cases hnext
  | failed failure t =>
    rw [hplay] at hnext
    cases hnext
  | running u =>
    rw [hplay] at hnext
    rw [play_append, hplay] at hconcludes
    dsimp only at hconcludes
    rw [play_split_output] at hconcludes
    have hrun : ∀ events, u.Admits k events → (u.play k events).Concludes ending s →
        Run k s₀ (past ++ events) ending s := by
      intro events hadmits hends
      refine ⟨(admits_append k s₀ past events).mpr ⟨hpast, ?_⟩, ?_⟩
      · rw [hplay]
        exact hadmits
      · rw [play_append, hplay]
        exact hends
    rcases Admits.split_output hfirst hsecond hnext with htwo | ⟨rfl, hone, hended⟩
    · exact .inl (hrun _ htwo hconcludes)
    · refine .inr ⟨rfl, hrun _ hone ?_⟩
      rw [play_cons_of_ended hended] at hconcludes ⊢
      exact hconcludes

/-- **It does not matter where output is cut.** From any cursor and on any sink, feeding two pieces
one after the other comes to what feeding them together comes to, and if the first is stopped or
refused, to what it comes to alone. So a session in which a read is cut in two stands where it
stands without the cut, at any time, and what was a run ends the same way. -/
theorem output_cut_anywhere (k : Comparator) :
    (∀ (c : Cursor) (first second : Bytes) (echo : Sink),
      k.feed c (first ++ second) echo =
        match (k.feed c first echo).flow with
        | .more => k.feed (k.feed c first echo).cursor second (k.feed c first echo).echo
        | .stop | .echoFull => k.feed c first echo) ∧
    (∀ (s : Session) (past later : List Event) (first second : Bytes),
      s.play k (past ++ .output (first ++ second) :: later) =
        s.play k (past ++ .output first :: .output second :: later)) ∧
    ∀ (s₀ s : Session) (past later : List Event) (first second : Bytes) (ending : Ending),
      first ≠ [] → second ≠ [] →
      Run k s₀ (past ++ .output (first ++ second) :: later) ending s →
      Run k s₀ (past ++ .output first :: .output second :: later) ending s ∨
        later = [] ∧ Run k s₀ (past ++ [.output first]) ending s := by
  refine ⟨?_, ?_, ?_⟩
  · intro c first second echo
    rw [Comparator.feed_append]
    cases hflow : (k.feed c first echo).flow with
    | more => exact Fed.andThen_of_more hflow _
    | stop => exact Fed.andThen_of_not_more (by simp [hflow]) _
    | echoFull => exact Fed.andThen_of_not_more (by simp [hflow]) _
  · intro s past later first second
    rw [play_append, play_append]
    cases s.play k past with
    | running u => exact play_split_output k u first second later
    | ended ending t => rfl
    | failed failure t => rfl
  · intro s₀ s past later first second ending hfirst hsecond h
    exact h.split_output hfirst hsecond

/-- A line may come in one read or in two. -/
theorem output_cut_inside_line :
    let k : Comparator := .ofThreshold 1
    let s := ((start [] [97, 10] {}).play k [.output [97, 10], .outputEnd, .errorEnd]).session
    Run k (.start [] [97, 10] {}) [.output [97, 10], .outputEnd, .errorEnd] .closed s ∧
      Run k (.start [] [97, 10] {}) [.output [97], .output [10], .outputEnd, .errorEnd] .closed
        s := by
  intro k s
  have hrun : Run k (.start [] [97, 10] {}) [.output [97, 10], .outputEnd, .errorEnd] .closed s :=
    ⟨by decide, .ended .closed s⟩
  rcases (output_cut_anywhere k).2.2 _ s [] [.outputEnd, .errorEnd] [97] [10] .closed (by decide)
    (by decide) hrun with hcut | ⟨hnil, -⟩
  · exact ⟨hrun, hcut⟩
  · cases hnil

end Session

end Rehearsal
