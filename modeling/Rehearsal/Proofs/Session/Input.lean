import Rehearsal.Proofs.Session.Verdict

/-!
# How the input reaches the program

Input is staged a line at a time, and what is staged is taken in pieces of any size. All that an
event does to it is one of the three cases of `InputStep`: it stages the next line, it closes the
input, or it takes some of the staged chunk. Everything here follows from these three, first for one
event and then along the trail of a session.

* `input_in_script_order`: after any events, the staged chunk has brought the program exactly to the
  end of a line, and the number of that line is the number of times that quiet staged one.
* `no_input_after_wrong_or_ended`: after a wrong line, or once an output stream has ended, nothing
  is staged and the input is not closed, so no more is sent than the chunk that was staged already.
* `input_closed_when_all_taken`: the input is closed when the cursor says so, once, and only after
  all of it was taken. A write finds it open, and if the program refuses the write there is a line
  that it has not read.
-/

namespace Rehearsal

namespace Session

open Bytes Judgement

variable {k : Comparator} {s t : Session} {e : Event} {past events : List Event}

/-! ### Staging -/

/-- Does this event stage a chunk? Then less of the input is unstaged after it. -/
def stagesAt (k : Comparator) (s : Session) (e : Event) : Bool :=
  (s.step k e).session.cursor.unstaged != s.cursor.unstaged

/-- How many events of a trail stage a chunk. -/
def countStages (k : Comparator) (trail : List (Session × Event)) : Nat :=
  trail.countP fun p => p.1.stagesAt k p.2

/-- How many chunks are staged in a run. -/
def chunksStaged (k : Comparator) (s : Session) (events : List Event) : Nat :=
  countStages k (s.trail k events)

theorem countStages_cons (k : Comparator) (s : Session) (e : Event)
    (trail : List (Session × Event)) :
    countStages k ((s, e) :: trail) =
      if s.stagesAt k e then countStages k trail + 1 else countStages k trail := by
  rw [countStages, List.countP_cons]
  split <;> rfl

/-- Only quiet stages a chunk, only when all of the last one was taken, and the chunk is the next
line. -/
theorem of_stagesAt (h : s.stagesAt k e = true) :
    e = .quiet ∧ s.cursor.staged = [] ∧ s.stdoutOpen = true ∧ s.stderrOpen = true ∧
      s.cursor.diverged = false ∧
      lines s.cursor.unstaged =
        (s.step k e).session.cursor.staged :: lines (s.step k e).session.cursor.unstaged := by
  rw [stagesAt, bne_iff_ne] at h
  have hstep := inputStep_step k s e
  generalize (s.step k e).session = t at h hstep ⊢
  cases hstep with
  | stages hout herr hright hstaged hunstaged hline =>
    refine ⟨rfl, hstaged, hout, herr, hright, ?_⟩
    rw [lines_eq_splitFirstLine hunstaged, hline]
  | closes hout herr hright hstaged hunstaged hstaged' hunstaged' =>
    exact absurd (hunstaged'.trans hunstaged.symm) h
  | takes htaken hunstaged => exact absurd hunstaged h

theorem unstaged_of_not_stagesAt (h : ¬ s.stagesAt k e = true) :
    (s.step k e).session.cursor.unstaged = s.cursor.unstaged := by
  rw [stagesAt, bne_iff_ne] at h
  exact not_not.mp h

theorem chunksStaged_append (k : Comparator) (s : Session) (past events : List Event) :
    s.chunksStaged k (past ++ events) =
      s.chunksStaged k past +
        match s.play k past with
        | .running t => t.chunksStaged k events
        | _ => 0 := by
  rw [chunksStaged, trail_append, countStages, List.countP_append]
  cases s.play k past <;> rfl

/-- What is unstaged is all lines but those that were staged, one at a time. -/
theorem lines_unstaged (k : Comparator) (s : Session) (events : List Event) :
    s.chunksStaged k events ≤ (lines s.cursor.unstaged).length ∧
      lines (s.play k events).session.cursor.unstaged =
        (lines s.cursor.unstaged).drop (s.chunksStaged k events) := by
  refine play_induction (motive := fun s trail t =>
    countStages k trail ≤ (lines s.cursor.unstaged).length ∧
      lines t.cursor.unstaged = (lines s.cursor.unstaged).drop (countStages k trail))
    (fun s => ⟨Nat.zero_le _, rfl⟩) ?_ s events
  rintro s e trail t ⟨hle, hdrop⟩
  rw [countStages_cons]
  by_cases hstages : s.stagesAt k e = true
  · obtain ⟨-, -, -, -, -, hlines⟩ := of_stagesAt hstages
    rw [if_pos hstages, hlines, List.length_cons, List.drop_succ_cons]
    exact ⟨Nat.succ_le_succ hle, hdrop⟩
  · rw [unstaged_of_not_stagesAt hstages] at hle hdrop
    rw [if_neg hstages]
    exact ⟨hle, hdrop⟩

/-- What was taken and what is staged is what was staged at first and the lines staged since. -/
theorem inputTaken_append_staged (k : Comparator) (s : Session) (events : List Event) :
    s.inputTaken k events ++ (s.play k events).session.cursor.staged =
      s.cursor.staged ++ ((lines s.cursor.unstaged).take (s.chunksStaged k events)).flatten := by
  -- No input is lost, so it is enough to cancel the lines that were not staged yet.
  have hall := inputTaken_append_remainingInput k s events
  have hunstaged := congrArg List.flatten (lines_unstaged k s events).2
  rw [flatten_lines] at hunstaged
  rw [Cursor.remainingInput, Cursor.remainingInput, hunstaged, ← List.append_assoc] at hall
  refine List.append_cancel_right (hall.trans ?_)
  rw [List.append_assoc, ← List.flatten_append, List.take_append_drop, flatten_lines]

/-- What is staged is the end of one line. -/
theorem staged_suffix_line (k : Comparator) (s : Session) (events : List Event) :
    (s.play k events).session.cursor.staged <:+ s.cursor.staged ∨
      ∃ line ∈ lines s.cursor.unstaged, (s.play k events).session.cursor.staged <:+ line := by
  refine play_induction (motive := fun s _ t => t.cursor.staged <:+ s.cursor.staged ∨
    ∃ line ∈ lines s.cursor.unstaged, t.cursor.staged <:+ line)
    (fun s => .inl (List.suffix_refl _)) ?_ s events
  intro s e _ t ih
  have hstep := inputStep_step k s e
  generalize (s.step k e).session = u at ih hstep
  cases hstep with
  | stages hout herr hright hstaged hunstaged hline =>
    -- The session goes on with the first line staged, and the others are those that are unstaged.
    rw [lines_eq_splitFirstLine hunstaged, hline]
    rcases ih with hfirst | ⟨line, hmem, hsuffix⟩
    · exact .inr ⟨_, List.mem_cons_self, hfirst⟩
    · exact .inr ⟨line, List.mem_cons_of_mem _ hmem, hsuffix⟩
  | closes hout herr hright hstaged hunstaged hstaged' hunstaged' =>
    rw [hstaged', hunstaged'] at ih
    rw [hstaged, hunstaged]
    exact ih
  | takes htaken hunstaged =>
    rw [hunstaged] at ih
    exact ih.imp_left fun h => h.trans ⟨_, htaken⟩

section Start

variable {input expected : Bytes} {echo : Sink}

/-- **The input comes in the order of the script, a line at each quiet time.** After any events,
what was taken and what is left are the input. What was taken and what is staged are its first
lines, as many as were staged, so nothing of a line is taken before that line was staged. Only quiet
stages a line, it is the next one, and all lines before it have been taken. -/
theorem input_in_script_order (k : Comparator) (input expected : Bytes) (echo : Sink)
    (events : List Event) :
    let s := ((start input expected echo).play k events).session
    let taken := (start input expected echo).inputTaken k events
    let n := (start input expected echo).chunksStaged k events
    taken ++ s.cursor.remainingInput = input ∧
    n ≤ (lines input).length ∧
    taken ++ s.cursor.staged = ((lines input).take n).flatten ∧
    (∀ m, ((lines input).take m).flatten.length < taken.length → m < n) ∧
    ∀ past e later u, events = past ++ e :: later →
      (start input expected echo).play k past = .running u → u.stagesAt k e = true →
      let m := (start input expected echo).chunksStaged k past
      e = .quiet ∧ u.cursor.staged = [] ∧
      (start input expected echo).inputTaken k past = ((lines input).take m).flatten ∧
      (lines input)[m]? = some (u.step k e).session.cursor.staged := by
  intro s taken n
  have hfront : taken ++ s.cursor.staged = ((lines input).take n).flatten :=
    inputTaken_append_staged k (start input expected echo) events
  refine ⟨inputTaken_append_remainingInput k (start input expected echo) events,
    (lines_unstaged k (start input expected echo) events).1, hfront, ?_, ?_⟩
  · -- If no more than `m` lines were staged, nothing beyond them can have been taken.
    intro m hlength
    by_contra hle
    obtain ⟨d, rfl⟩ := Nat.exists_eq_add_of_le (Nat.le_of_not_lt hle)
    have hfrontLength := congrArg List.length hfront
    rw [List.take_add, List.flatten_append, List.length_append] at hlength
    rw [List.length_append] at hfrontLength
    omega
  · intro past e later u hevents hplay hstages m
    have hpast := inputTaken_append_staged k (start input expected echo) past
    have hrest := (lines_unstaged k (start input expected echo) past).2
    rw [hplay] at hpast hrest
    obtain ⟨he, hstaged, -, -, -, hline⟩ := of_stagesAt hstages
    refine ⟨he, hstaged, ?_, ?_⟩
    · rw [Progress.session, hstaged, List.append_nil] at hpast
      exact hpast
    · have hhead : ((lines input).drop m).head? = some (u.step k e).session.cursor.staged := by
        rw [← List.head?_cons, ← hline]
        exact congrArg List.head? hrest.symm
      rw [List.head?_drop] at hhead
      exact hhead

end Start

/-! ### Input held back -/

/-- Nothing more is staged once a line was wrong or one of the output streams has ended. -/
def HoldsBack (s : Session) : Prop :=
  s.cursor.diverged = true ∨ s.stdoutOpen = false ∨ s.stderrOpen = false

theorem HoldsBack.step (h : s.HoldsBack) (k : Comparator) (e : Event) :
    (s.step k e).session.HoldsBack := by
  have hstep := step_session_spec k s e
  generalize (s.step k e).session = t at hstep
  rcases hstep with hmoves | ⟨ending, hstops⟩ | ⟨failure, hfails⟩
  · cases hmoves with
    | output hflow => exact h.imp_left (Comparator.diverged_feed k _ s.echo)
    | outputEnd => exact .inr (.inl rfl)
    | errorEnd => exact .inr (.inr rfl)
    | stages hout herr hpending hright hstage =>
      rw [HoldsBack, hout, herr, hright] at h
      simp at h
    | accepted | waitsForInput | closesInput | waitsForOutput => exact h
  · cases hstops with
    | mismatchCap hflow => exact h.imp_left (Comparator.diverged_feed k _ s.echo)
    | outputEnd => exact .inr (.inl rfl)
    | errorEnd => exact .inr (.inr rfl)
    | unterminated | errorOutput | acceptsNothing | refused | quiet | diverged => exact h
  · cases hfails with
    | output hflow => exact h.imp_left (Comparator.diverged_feed k _ s.echo)
    | input | broken => exact h

theorem HoldsBack.not_stagesAt (h : s.HoldsBack) (k : Comparator) (e : Event) :
    ¬ s.stagesAt k e = true := by
  intro hstages
  obtain ⟨-, -, hout, herr, hright, -⟩ := of_stagesAt hstages
  rw [HoldsBack, hout, herr, hright] at h
  simp at h

theorem HoldsBack.stdin_step (h : s.HoldsBack) (k : Comparator) (e : Event) :
    (s.step k e).session.stdinOpen = s.stdinOpen ∧
      (s.step k e).session.cursor.inputClosed = s.cursor.inputClosed := by
  have hstep := inputStep_step k s e
  generalize (s.step k e).session = t at hstep
  cases hstep with
  | stages hout herr hright hstaged hunstaged hline hstdin hclosed => exact ⟨hstdin, hclosed⟩
  | closes hout herr hright =>
    rw [HoldsBack, hout, herr, hright] at h
    simp at h
  | takes htaken hunstaged hstdin hclosed => exact ⟨hstdin, hclosed⟩

/-- A session that holds input back goes on doing so. -/
theorem HoldsBack.play (h : s.HoldsBack) (k : Comparator) (events : List Event) :
    s.chunksStaged k events = 0 ∧ (s.play k events).session.stdinOpen = s.stdinOpen ∧
      (s.play k events).session.cursor.inputClosed = s.cursor.inputClosed := by
  refine play_induction (motive := fun s trail t => s.HoldsBack →
    countStages k trail = 0 ∧ t.stdinOpen = s.stdinOpen ∧
      t.cursor.inputClosed = s.cursor.inputClosed) (fun s _ => ⟨rfl, rfl, rfl⟩) ?_ s events h
  intro s e trail t ih hs
  obtain ⟨hcount, hstdin, hclosed⟩ := ih (hs.step k e)
  obtain ⟨hstdin', hclosed'⟩ := hs.stdin_step k e
  rw [countStages_cons, if_neg (hs.not_stagesAt k e)]
  exact ⟨hcount, hstdin.trans hstdin', hclosed.trans hclosed'⟩

/-- What is still taken was staged already. -/
theorem HoldsBack.inputTaken_append_staged (h : s.HoldsBack) (k : Comparator)
    (events : List Event) :
    s.inputTaken k events ++ (s.play k events).session.cursor.staged = s.cursor.staged := by
  rw [Session.inputTaken_append_staged, (h.play k events).1, List.take_zero, List.flatten_nil,
    List.append_nil]

/-- Of two parts of a run, the second starts with a session that waits, or is empty. -/
theorem Admits.reaches_or_nil {s₀ : Session} (h : s₀.Admits k (past ++ events)) :
    (∃ s, Reaches k s₀ past s) ∨ events = [] := by
  obtain ⟨hpast, hlater⟩ := (admits_append k s₀ past events).mp h
  cases hplay : s₀.play k past with
  | running s => exact .inl ⟨s, hpast, hplay⟩
  | ended ending s =>
    rw [hplay] at hlater
    exact .inr hlater
  | failed failure s =>
    rw [hplay] at hlater
    exact .inr hlater

section Start

variable {input expected : Bytes} {echo : Sink}

/-- **No input after a wrong line or the end of an output stream.** Whatever follows, no chunk is
staged and the input is not closed. What is still taken is the first bytes of the chunk that was
staged, which is the end of one line. -/
theorem no_input_after_wrong_or_ended
    (h : (start input expected echo).Admits k (past ++ events))
    (hover : ((start input expected echo).play k past).session.cursor.diverged = true ∨
      .outputEnd ∈ past ∨ .errorEnd ∈ past) :
    let s := ((start input expected echo).play k past).session
    let t := ((start input expected echo).play k (past ++ events)).session
    (start input expected echo).chunksStaged k (past ++ events) =
      (start input expected echo).chunksStaged k past ∧
    t.stdinOpen = s.stdinOpen ∧ t.cursor.inputClosed = s.cursor.inputClosed ∧
    (∃ taken, (start input expected echo).inputTaken k (past ++ events) =
      (start input expected echo).inputTaken k past ++ taken ∧ taken <+: s.cursor.staged) ∧
    (s.cursor.staged ≠ [] → ∃ line ∈ lines input, s.cursor.staged <:+ line) := by
  intro s t
  have hline : s.cursor.staged ≠ [] → ∃ line ∈ lines input, s.cursor.staged <:+ line := by
    intro hne
    exact (staged_suffix_line k (start input expected echo) past).resolve_left
      fun hnil => hne (List.suffix_nil.mp hnil)
  -- Unless the session is over, it holds back from now on.
  rcases h.reaches_or_nil with ⟨u, hu⟩ | rfl
  · have hs : s = u := congrArg Progress.session hu.play
    have hback : u.HoldsBack := by
      rw [HoldsBack, ← hu.outputEnd_mem_iff, ← hu.errorEnd_mem_iff, ← hs]
      exact hover
    have ht : t = (u.play k events).session := by
      show ((start input expected echo).play k (past ++ events)).session = _
      rw [play_append, hu.play]
    obtain ⟨hcount, hstdin, hclosed⟩ := hback.play k events
    rw [hs, ht]
    refine ⟨?_, hstdin, hclosed, ⟨u.inputTaken k events, ?_, ?_⟩, hs ▸ hline⟩
    · rw [chunksStaged_append, hu.play]
      exact congrArg _ hcount
    · rw [inputTaken_append, hu.play]
    · exact ⟨_, hback.inputTaken_append_staged k events⟩
  · have ht : t = s := by
      show ((start input expected echo).play k (past ++ [])).session = _
      rw [List.append_nil]
    rw [ht, List.append_nil]
    exact ⟨rfl, rfl, rfl, ⟨[], (List.append_nil _).symm, List.nil_prefix⟩, hline⟩

/-- The program writes a wrong line when a chunk is half taken. It can take the rest and no more. -/
theorem no_input_after_wrong_line :
    let past : List Event := [.quiet, .accepted 1, .output [121, 10]]
    let events : List Event := [.quiet, .accepted 2, .quiet]
    let k : Comparator := .ofThreshold 15
    let s₀ := start [97, 98, 10, 99, 10] [120, 10] {}
    s₀.Admits k (past ++ events) ∧ (s₀.play k past).session.cursor.diverged = true ∧
      s₀.chunksStaged k (past ++ events) = s₀.chunksStaged k past ∧
      ∃ taken, s₀.inputTaken k (past ++ events) = s₀.inputTaken k past ++ taken ∧
        taken <+: [98, 10] := by
  intro past events k s₀
  have hadmits : s₀.Admits k (past ++ events) := by decide
  have hwrong : (s₀.play k past).session.cursor.diverged = true := by decide
  obtain ⟨hcount, -, -, htaken, -⟩ := no_input_after_wrong_or_ended hadmits (.inl hwrong)
  exact ⟨hadmits, hwrong, hcount, htaken⟩

end Start

/-! ### The end of the input -/

/-- The input is closed when the cursor says so, and only after all of it was taken. -/
structure ClosedWhenTaken (s : Session) : Prop where
  stdinOpen : s.stdinOpen = !s.cursor.inputClosed
  remainingInput : s.stdinOpen = false → s.cursor.remainingInput = []

namespace ClosedWhenTaken

theorem start (input expected : Bytes) (echo : Sink) :
    ClosedWhenTaken (.start input expected echo) :=
  ⟨rfl, fun h => by cases h⟩

theorem inputStep (h : ClosedWhenTaken s) (hstep : InputStep s e t) : ClosedWhenTaken t := by
  have hleft : s.stdinOpen = false → t.cursor.remainingInput = [] := by
    intro hstdin
    have hnil := hstep.inputTakenAt_append
    rw [h.remainingInput hstdin] at hnil
    exact (List.append_eq_nil_iff.mp hnil).2
  cases hstep with
  | stages hout herr hright hstaged hunstaged hline hstdin hclosed =>
    exact ⟨by rw [hstdin, hclosed, h.stdinOpen], fun ht => hleft (hstdin ▸ ht)⟩
  | closes hout herr hright hstaged hunstaged hstaged' hunstaged' hstdin hclosed =>
    refine ⟨by rw [hstdin, hclosed]; rfl, fun _ => ?_⟩
    rw [Cursor.remainingInput, hstaged', hunstaged']
    rfl
  | takes htaken hunstaged hstdin hclosed =>
    exact ⟨by rw [hstdin, hclosed, h.stdinOpen], fun ht => hleft (hstdin ▸ ht)⟩

theorem play (h : ClosedWhenTaken s) (k : Comparator) (events : List Event) :
    ClosedWhenTaken (s.play k events).session := by
  refine play_induction (motive := fun s _ t => ClosedWhenTaken s → ClosedWhenTaken t)
    (fun s hs => hs) ?_ s events h
  intro s e _ t ih hs
  exact ih (hs.inputStep (inputStep_step k s e))

/-- As long as something is staged, the input is open. -/
theorem stdinOpen_of_hasPending (h : ClosedWhenTaken s) (hpending : s.cursor.hasPending = true) :
    s.stdinOpen = true := by
  by_contra hclosed
  have hnil := h.remainingInput (Bool.eq_false_iff.mpr hclosed)
  have hstaged : s.cursor.staged = [] := (List.append_eq_nil_iff.mp hnil).1
  rw [Cursor.hasPending_eq_false_iff.mpr hstaged] at hpending
  cases hpending

end ClosedWhenTaken

/-- An input that was closed stays closed. -/
theorem stdinOpen_play_of_closed (k : Comparator) (events : List Event)
    (h : s.stdinOpen = false) : (s.play k events).session.stdinOpen = false := by
  refine play_induction (motive := fun s _ t => s.stdinOpen = false → t.stdinOpen = false)
    (fun s hs => hs) ?_ s events h
  intro s e _ t ih hs
  refine ih ?_
  have hstep := inputStep_step k s e
  cases hstep with
  | stages hout herr hright hstaged hunstaged hline hstdin => exact hstdin.trans hs
  | closes hout herr hright hstaged hunstaged hstaged' hunstaged' hstdin => exact hstdin
  | takes htaken hunstaged hstdin => exact hstdin.trans hs

theorem stdinOpen_play_append (k : Comparator) (past events : List Event)
    (h : (s.play k past).session.stdinOpen = false) :
    (s.play k (past ++ events)).session.stdinOpen = false := by
  rw [play_append]
  cases hplay : s.play k past with
  | running t =>
    rw [hplay] at h
    exact stdinOpen_play_of_closed k events h
  | ended ending t =>
    rw [hplay] at h
    exact h
  | failed failure t =>
    rw [hplay] at h
    exact h

/-- The program breaks the pipe only by refusing a chunk that is staged. -/
theorem Run.of_brokenPipe {s₀ : Session} (h : Run k s₀ events .brokenPipe s) :
    (events.getLast? = some .refused ∨ events.getLast? = some (.accepted 0)) ∧
      s.cursor.hasPending = true := by
  rcases h.cut_or_stopped with ⟨limit, hcut, -⟩ | ⟨past, e, u, rfl, -, henabled, hstops⟩
  · cases hcut
  · rw [List.getLast?_concat]
    cases hstops with
    | acceptsNothing => exact ⟨.inr rfl, henabled.1⟩
    | refused => exact ⟨.inl rfl, henabled⟩

/-- What a verdict shows that blames a program for a refusal: all lines that were not sent, or the
first of them and the number of the others. -/
theorem judge?_brokenPipe {c : Cursor} {l : Limits} {verdict : Verdict}
    (h : judge? .brokenPipe c l = some verdict) (hreason : verdict.reason? = some .brokenPipe) :
    ∃ shown elision,
      verdict = .fail .brokenPipe ((.heading
        "!!ERROR!! Program stopped accepting input. Unsent input was:" ::
          shown.map .quoted ++ elision).flatMap Note.render) ∧
      shown <+: lines c.remainingInput ∧
      (elision = [] ∧ shown = lines c.remainingInput ∨
        ∃ count, elision = [.skipped count "unsent input"] ∧
          shown.length + count = (lines c.remainingInput).length) := by
  have hdiagnostic : verdict.diagnostic =
      (Leftover.unsentInput.section c l).notes.flatMap Note.render := by
    simpa [opening, partsShown] using diagnostic_of_showsLeftovers h hreason rfl
  have haccounts : (Leftover.unsentInput.section c l).Accounts (lines c.remainingInput) l :=
    Leftover.accounts_section .unsentInput c l
  have hverdict : verdict = .fail .brokenPipe verdict.diagnostic := by
    cases verdict with
    | pass => cases hreason
    | fail reason diagnostic =>
      obtain rfl := Option.some.inj hreason
      rfl
  rw [hverdict, hdiagnostic, Section.notes, Section.body, Leftover.part_section]
  refine ⟨_, _, rfl, ?_, ?_⟩
  · rcases Nat.lt_or_ge (lines c.remainingInput).length
      (l.postCrashLines + l.overflowMargin) with hshort | hlong
    · rw [(haccounts.all hshort).1]
    · rw [(haccounts.cut hlong).1]
      exact List.take_prefix _ _
  · rcases Nat.lt_or_ge (lines c.remainingInput).length
      (l.postCrashLines + l.overflowMargin) with hshort | hlong
    · obtain ⟨hshown, hskipped⟩ := haccounts.all hshort
      rw [hskipped]
      exact .inl ⟨rfl, hshown⟩
    · obtain ⟨-, -, hskipped⟩ := haccounts.cut hlong
      have htotal := haccounts.total
      rw [hskipped] at htotal ⊢
      exact .inr ⟨_, rfl, htotal⟩

section Start

variable {input expected : Bytes} {echo : Sink}

/-- **The input is closed once, and only after all of it was taken.** At every moment of a run the
input is closed if and only if the cursor says so; then nothing of it is left, and it stays closed.
So a write finds it open. If a refused write ends the session, the input is open and some of it is
staged; a verdict that blames the program for it shows a line that was not read, or counts it. -/
theorem input_closed_when_all_taken (h : (start input expected echo).Admits k events) :
    (∀ past later, events = past ++ later →
      let s := ((start input expected echo).play k past).session
      (s.stdinOpen = false ↔ s.cursor.inputClosed = true) ∧
      (s.stdinOpen = false →
        s.cursor.remainingInput = [] ∧ s.cursor.hasPending = false ∧
        (start input expected echo).inputTaken k past = input ∧
        ((start input expected echo).play k events).session.stdinOpen = false) ∧
      (s.cursor.hasPending = true →
        ∀ (World : Type) (w : World) (offer : World → Bytes → Option (Event × World)),
          s.offerStaged w offer = offer w s.cursor.staged)) ∧
    ∀ s, (start input expected echo).play k events = .ended .brokenPipe s →
      (events.getLast? = some .refused ∨ events.getLast? = some (.accepted 0)) ∧
      s.stdinOpen = true ∧ s.cursor.staged ≠ [] ∧ s.cursor.staged <+: s.cursor.remainingInput ∧
      ∀ l verdict, judge? .brokenPipe s.cursor l = some verdict →
        verdict.reason? = some .brokenPipe →
        ∃ shown elision,
          verdict =
            .fail .brokenPipe ((.heading
              "!!ERROR!! Program stopped accepting input. Unsent input was:" ::
                shown.map .quoted ++ elision).flatMap Note.render) ∧
          shown <+: lines s.cursor.remainingInput ∧
          (elision = [] ∧ shown = lines s.cursor.remainingInput ∧ shown ≠ [] ∨
            ∃ count, elision = [.skipped count "unsent input"] ∧ 1 ≤ shown.length + count ∧
              shown.length + count = (lines s.cursor.remainingInput).length) := by
  constructor
  · rintro past later rfl s
    have hs : ClosedWhenTaken s := (ClosedWhenTaken.start input expected echo).play k past
    refine ⟨?_, fun hclosed => ?_, fun hpending World w offer => ?_⟩
    · rw [hs.stdinOpen, Bool.not_eq_false']
    · have hleft := hs.remainingInput hclosed
      have hall : (start input expected echo).inputTaken k past ++ s.cursor.remainingInput =
          input :=
        inputTaken_append_remainingInput k (start input expected echo) past
      rw [hleft, List.append_nil] at hall
      exact ⟨hleft, Cursor.hasPending_eq_false_iff.mpr (List.append_eq_nil_iff.mp hleft).1, hall,
        stdinOpen_play_append k past later hclosed⟩
    · rw [offerStaged, if_pos (hs.stdinOpen_of_hasPending hpending)]
  · intro s hplay
    have hrun : Run k (start input expected echo) events .brokenPipe s :=
      ⟨h, hplay ▸ .ended .brokenPipe s⟩
    obtain ⟨hlast, hpending⟩ := hrun.of_brokenPipe
    have hs : ClosedWhenTaken s := by
      rw [← hrun.play_session]
      exact (ClosedWhenTaken.start input expected echo).play k events
    have hstaged : s.cursor.staged ≠ [] := by simpa [Cursor.hasPending] using hpending
    refine ⟨hlast, hs.stdinOpen_of_hasPending hpending, hstaged, List.prefix_append _ _, ?_⟩
    intro l verdict hverdict hreason
    obtain ⟨shown, elision, hfail, hprefix, hcount⟩ := judge?_brokenPipe hverdict hreason
    have hlines : lines s.cursor.remainingInput ≠ [] := fun hnil =>
      hstaged (List.append_eq_nil_iff.mp (lines_eq_nil_iff.mp hnil)).1
    refine ⟨shown, elision, hfail, hprefix, ?_⟩
    rcases hcount with ⟨helision, hshown⟩ | ⟨count, helision, hcount⟩
    · exact .inl ⟨helision, hshown, hshown ▸ hlines⟩
    · exact .inr ⟨count, helision, hcount ▸ List.length_pos_iff.mpr hlines, hcount⟩

/-- A program that takes its line finds the input closed; one that takes half of it and then refuses
more has found it open. -/
theorem input_closed_after_last_line :
    let taken : List Event := [.quiet, .accepted 2, .quiet]
    let refused : List Event := [.quiet, .accepted 1, .refused]
    let k : Comparator := .ofThreshold 15
    let s₀ := start [97, 10] [98, 10] {}
    let s := (s₀.play k refused).session
    s₀.Admits k taken ∧ (s₀.play k taken).session.cursor.remainingInput = [] ∧
      s₀.Admits k refused ∧ s.stdinOpen = true ∧ s.cursor.staged <+: s.cursor.remainingInput := by
  intro taken refused k s₀ s
  have htaken : s₀.Admits k taken := by decide
  have hclosed : (s₀.play k taken).session.stdinOpen = false := by decide
  have hrefused : s₀.Admits k refused := by decide
  obtain ⟨hpast, -⟩ := input_closed_when_all_taken htaken
  obtain ⟨-, hbroken⟩ := input_closed_when_all_taken hrefused
  obtain ⟨-, hopen, -, hprefix, -⟩ := hbroken s rfl
  exact ⟨htaken, ((hpast taken [] rfl).2.1 hclosed).1, hrefused, hopen, hprefix⟩

end Start

end Session

end Rehearsal
