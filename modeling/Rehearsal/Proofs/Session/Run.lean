import Mathlib.Data.List.Induction
import Rehearsal.Session
import Rehearsal.Proofs.Comparison

/-!
# Runs of a session

What one event can do to a session is said once, as three relations with a case for each thing that
can happen: `Moves` if the session goes on, `Stops` if it ends, `Fails` if a stream breaks or the
sink refuses what is to be echoed. They are `Session.step` read backwards (`step_eq_running_iff`,
`step_eq_ended_iff`, `step_eq_failed_iff`). What they have in common on the side of the input is a
fourth relation, `InputStep`. No proof about runs looks at `step` again.

A `Run` is a sequence of events each of which was enabled when it came, up to the one that ended
the session or to the moment when time was up. It is either still waiting, or it waited before its
last event and that event stopped it (`Run.cut_or_stopped`). What holds while a session waits is
proved by `Reaches.induction` from what a move keeps:

* `Reaches.compared`: the cursor is where it belongs after the output that arrived;
* `Reaches.size_lt`: the cap on wrong lines is not reached;
* `Reaches.outputEnd_mem_iff`, `Reaches.errorEnd_mem_iff`, `Reaches.errorOutput_not_mem`: which
  streams have ended, and that there was no error output.

From this and from what a stop keeps, the same is known when a run is over (`Run.compared` and so
on).

Some things hold of a session whatever becomes of it: waiting, ended or failed. They are proved
along its `trail`, which is each event with the session that it comes to, by `play_induction`;
`inputTaken_append_remainingInput`, that no input is lost or made up, is the first of them.

The last section is about output that stops inside a line. Either the output ended there, and
the session with it (`Run.endsInsideLine_iff`), or quiet closed the session, which is the only way
to close it with a line unfinished (`Run.quietInsideLine_iff`).
-/

namespace Rehearsal

namespace Cursor

theorem stage?_eq_some {c d : Cursor} (h : c.stage? = some d) :
    d = { c with staged := d.staged, unstaged := d.unstaged } := by
  unfold stage? at h
  split at h
  · cases h
  · cases h
    rfl

theorem splitFirstLine_of_stage? {c d : Cursor} (h : c.stage? = some d) :
    c.remainingInput ≠ [] ∧ Bytes.splitFirstLine c.remainingInput = (d.staged, d.unstaged) := by
  unfold stage? at h
  split at h
  · cases h
  · next hne =>
    cases h
    exact ⟨fun hnil => hne (List.isEmpty_iff.mpr hnil), rfl⟩

theorem remainingInput_of_stage?_eq_none {c : Cursor} (h : c.stage? = none) :
    c.remainingInput = [] := by
  unfold stage? at h
  split at h
  · next hnil => exact List.isEmpty_iff.mp hnil
  · cases h

theorem hasPending_eq_false_iff {c : Cursor} : c.hasPending = false ↔ c.staged = [] := by
  simp [hasPending]

theorem remainingInput_of_staged_eq_nil {c : Cursor} (h : c.staged = []) :
    c.remainingInput = c.unstaged := by
  rw [remainingInput, h, List.nil_append]

end Cursor

namespace Session

/-! ### What one event does -/

/-- An event that a session survives, and the session after it. -/
inductive Moves (k : Comparator) (s : Session) : Event → Session → Prop
  | output {chunk : Bytes} (hflow : (k.feed s.cursor chunk s.echo).flow = .more) :
      Moves k s (.output chunk)
        { s with
          cursor := (k.feed s.cursor chunk s.echo).cursor
          echo := (k.feed s.cursor chunk s.echo).echo }
  | outputEnd (hcarry : s.cursor.carry = []) (hopen : s.stderrOpen = true) :
      Moves k s .outputEnd { s with stdoutOpen := false }
  | errorEnd (hopen : s.stdoutOpen = true) : Moves k s .errorEnd { s with stderrOpen := false }
  | accepted {count : Nat} {echo : Sink} (hcount : count ≠ 0)
      (hecho : s.echo.write (s.cursor.sent count) = .ok echo) :
      Moves k s (.accepted count) { s with cursor := s.cursor.consumeInput count, echo }
  | waitsForInput (hout : s.stdoutOpen = true) (herr : s.stderrOpen = true)
      (hpending : s.cursor.hasPending = true) : Moves k s .quiet s
  | stages {cursor : Cursor} (hout : s.stdoutOpen = true) (herr : s.stderrOpen = true)
      (hpending : s.cursor.hasPending = false) (hright : s.cursor.diverged = false)
      (hstage : s.cursor.stage? = some cursor) : Moves k s .quiet { s with cursor }
  | closesInput (hout : s.stdoutOpen = true) (herr : s.stderrOpen = true)
      (hpending : s.cursor.hasPending = false) (hright : s.cursor.diverged = false)
      (hstage : s.cursor.stage? = none) (hclosed : s.cursor.inputClosed = false) :
      Moves k s .quiet
        { s with stdinOpen := false, cursor := { s.cursor with inputClosed := true } }
  | waitsForOutput (hout : s.stdoutOpen = true) (herr : s.stderrOpen = true)
      (hpending : s.cursor.hasPending = false) (hright : s.cursor.diverged = false)
      (hstage : s.cursor.stage? = none) (hclosed : s.cursor.inputClosed = true) :
      Moves k s .quiet s

/-- An event that ends a session, how it ends, and the session that is left. -/
inductive Stops (k : Comparator) (s : Session) : Event → Ending → Session → Prop
  | mismatchCap {chunk : Bytes} (hflow : (k.feed s.cursor chunk s.echo).flow = .stop) :
      Stops k s (.output chunk) .mismatchCap
        { s with
          cursor := (k.feed s.cursor chunk s.echo).cursor
          echo := (k.feed s.cursor chunk s.echo).echo }
  | unterminated (hcarry : s.cursor.carry ≠ []) : Stops k s .outputEnd .unterminated s
  | outputEnd (hcarry : s.cursor.carry = []) (hended : s.stderrOpen = false) :
      Stops k s .outputEnd .closed { s with stdoutOpen := false }
  | errorOutput {chunk : Bytes} :
      Stops k s (.errorOutput chunk) (.errorOutput chunk)
        { s with cursor := { s.cursor with sawError := true } }
  | errorEnd (hended : s.stdoutOpen = false) :
      Stops k s .errorEnd .closed { s with stderrOpen := false }
  | acceptsNothing : Stops k s (.accepted 0) .brokenPipe s
  | refused : Stops k s .refused .brokenPipe s
  | quiet (hended : s.stdoutOpen = false ∨ s.stderrOpen = false) : Stops k s .quiet .closed s
  | diverged (hout : s.stdoutOpen = true) (herr : s.stderrOpen = true)
      (hpending : s.cursor.hasPending = false) (hwrong : s.cursor.diverged = true) :
      Stops k s .quiet .diverged s

/-- An event at which a session fails, why, and the session that is left: the sink refuses an echo,
or a stream is broken. -/
inductive Fails (k : Comparator) (s : Session) : Event → Failure → Session → Prop
  | output {chunk : Bytes} (hflow : (k.feed s.cursor chunk s.echo).flow = .echoFull) :
      Fails k s (.output chunk) (.notEchoed .output)
        { s with
          cursor := (k.feed s.cursor chunk s.echo).cursor
          echo := (k.feed s.cursor chunk s.echo).echo }
  | input {count : Nat} {echo : Sink} (hcount : count ≠ 0)
      (hecho : s.echo.write (s.cursor.sent count) = .error echo) :
      Fails k s (.accepted count) (.notEchoed .input)
        { s with cursor := s.cursor.consumeInput count, echo }
  | broken {stream : Stream} {cause : IoError} :
      Fails k s (.broken stream cause) (.broken stream cause) s

variable {k : Comparator} {s t : Session} {e : Event} {ending : Ending} {failure : Failure}

/-- What quiet does: it never fails, and it leaves the session as it is when it ends it. -/
theorem stepQuiet_spec (k : Comparator) (s : Session) :
    (∃ t, s.stepQuiet = .running t ∧ Moves k s .quiet t) ∨
      ∃ ending, s.stepQuiet = .ended ending s ∧ Stops k s .quiet ending s := by
  unfold stepQuiet
  split
  · next hended =>
    refine .inr ⟨_, rfl, .quiet ?_⟩
    rw [Bool.not_eq_true', Bool.and_eq_false_iff] at hended
    exact hended
  · next hopen =>
    obtain ⟨hout, herr⟩ : s.stdoutOpen = true ∧ s.stderrOpen = true := by simpa using hopen
    split
    · next hpending => exact .inl ⟨_, rfl, .waitsForInput hout herr hpending⟩
    · next hpending =>
      have hpending : s.cursor.hasPending = false := Bool.eq_false_iff.mpr hpending
      split
      · next hwrong => exact .inr ⟨_, rfl, .diverged hout herr hpending hwrong⟩
      · next hright =>
        have hright : s.cursor.diverged = false := Bool.eq_false_iff.mpr hright
        split
        · next hstage => exact .inl ⟨_, rfl, .stages hout herr hpending hright hstage⟩
        · next hstage =>
          split
          · next hclosed =>
            exact .inl ⟨_, rfl, .waitsForOutput hout herr hpending hright hstage hclosed⟩
          · next hclosed =>
            exact .inl ⟨_, rfl, .closesInput hout herr hpending hright hstage
              (Bool.eq_false_iff.mpr hclosed)⟩

/-- Each step is a move, a stop or a failure. -/
theorem step_spec (k : Comparator) (s : Session) (e : Event) :
    (∃ t, s.step k e = .running t ∧ Moves k s e t) ∨
      (∃ ending t, s.step k e = .ended ending t ∧ Stops k s e ending t) ∨
      ∃ failure t, s.step k e = .failed failure t ∧ Fails k s e failure t := by
  cases e with
  | output chunk =>
    rw [step, stepOutput]
    split
    · next hflow => exact .inl ⟨_, rfl, .output hflow⟩
    · next hflow => exact .inr (.inl ⟨_, _, rfl, .mismatchCap hflow⟩)
    · next hflow => exact .inr (.inr ⟨_, _, rfl, .output hflow⟩)
  | outputEnd =>
    rw [step, stepOutputEnd]
    split
    · next hcarry => exact .inr (.inl ⟨_, _, rfl, .unterminated (by simpa using hcarry)⟩)
    · next hcarry =>
      have hcarry : s.cursor.carry = [] := by simpa using hcarry
      dsimp only
      split
      · next hopen => exact .inl ⟨_, rfl, .outputEnd hcarry hopen⟩
      · next hended =>
        exact .inr (.inl ⟨_, _, rfl, .outputEnd hcarry (Bool.eq_false_iff.mpr hended)⟩)
  | errorOutput chunk => exact .inr (.inl ⟨_, _, rfl, .errorOutput⟩)
  | errorEnd =>
    rw [step, stepErrorEnd]
    dsimp only
    split
    · next hopen => exact .inl ⟨_, rfl, .errorEnd hopen⟩
    · next hended => exact .inr (.inl ⟨_, _, rfl, .errorEnd (Bool.eq_false_iff.mpr hended)⟩)
  | accepted count =>
    rw [step, stepAccepted]
    split
    · next hcount =>
      subst hcount
      exact .inr (.inl ⟨_, _, rfl, .acceptsNothing⟩)
    · next hcount =>
      dsimp only
      split
      · next hecho => exact .inl ⟨_, rfl, .accepted hcount hecho⟩
      · next hecho => exact .inr (.inr ⟨_, _, rfl, .input hcount hecho⟩)
  | refused => exact .inr (.inl ⟨_, _, rfl, .refused⟩)
  | broken stream cause => exact .inr (.inr ⟨_, _, rfl, .broken⟩)
  | quiet =>
    rcases stepQuiet_spec k s with h | ⟨ending, h⟩
    · exact .inl h
    · exact .inr (.inl ⟨ending, s, h⟩)

/-- A session goes on exactly as `Moves` says. -/
theorem step_eq_running_iff : s.step k e = .running t ↔ Moves k s e t := by
  constructor
  · intro h
    rcases step_spec k s e with ⟨u, hu, hmoves⟩ | ⟨ending, u, hu, -⟩ | ⟨failure, u, hu, -⟩
    · rw [hu] at h
      cases h
      exact hmoves
    · rw [hu] at h
      cases h
    · rw [hu] at h
      cases h
  · intro h
    cases h with
    | output hflow => simp [step, stepOutput, hflow]
    | outputEnd hcarry hopen => simp [step, stepOutputEnd, hcarry, hopen]
    | errorEnd hopen => simp [step, stepErrorEnd, hopen]
    | accepted hcount hecho => simp [step, stepAccepted, hcount, hecho]
    | waitsForInput hout herr hpending => simp [step, stepQuiet, hout, herr, hpending]
    | stages hout herr hpending hright hstage =>
      simp [step, stepQuiet, hout, herr, hpending, hright, hstage]
    | closesInput hout herr hpending hright hstage hclosed =>
      simp [step, stepQuiet, hout, herr, hpending, hright, hstage, hclosed]
    | waitsForOutput hout herr hpending hright hstage hclosed =>
      simp [step, stepQuiet, hout, herr, hpending, hright, hstage, hclosed]

/-- A session ends exactly as `Stops` says. -/
theorem step_eq_ended_iff : s.step k e = .ended ending t ↔ Stops k s e ending t := by
  constructor
  · intro h
    rcases step_spec k s e with ⟨u, hu, -⟩ | ⟨ending, u, hu, hstops⟩ | ⟨failure, u, hu, -⟩
    · rw [hu] at h
      cases h
    · rw [hu] at h
      cases h
      exact hstops
    · rw [hu] at h
      cases h
  · intro h
    cases h with
    | mismatchCap hflow => simp [step, stepOutput, hflow]
    | unterminated hcarry => simp [step, stepOutputEnd, hcarry]
    | outputEnd hcarry hended => simp [step, stepOutputEnd, hcarry, hended]
    | errorOutput => rfl
    | errorEnd hended => simp [step, stepErrorEnd, hended]
    | acceptsNothing => rfl
    | refused => rfl
    | quiet hended =>
      rcases hended with hended | hended
      · simp [step, stepQuiet, hended]
      · simp [step, stepQuiet, hended]
    | diverged hout herr hpending hwrong => simp [step, stepQuiet, hout, herr, hpending, hwrong]

/-- A session fails exactly as `Fails` says. -/
theorem step_eq_failed_iff : s.step k e = .failed failure t ↔ Fails k s e failure t := by
  constructor
  · intro h
    rcases step_spec k s e with ⟨u, hu, -⟩ | ⟨ending, u, hu, -⟩ | ⟨failure, u, hu, hfails⟩
    · rw [hu] at h
      cases h
    · rw [hu] at h
      cases h
    · rw [hu] at h
      cases h
      exact hfails
  · intro h
    cases h with
    | output hflow => simp [step, stepOutput, hflow]
    | input hcount hecho => simp [step, stepAccepted, hcount, hecho]
    | broken => rfl

/-- However a session comes out of an event, one of the three says how. -/
theorem step_session_spec (k : Comparator) (s : Session) (e : Event) :
    Moves k s e (s.step k e).session ∨ (∃ ending, Stops k s e ending (s.step k e).session) ∨
      ∃ failure, Fails k s e failure (s.step k e).session := by
  rcases step_spec k s e with ⟨t, ht, hmoves⟩ | ⟨ending, t, ht, hstops⟩ | ⟨failure, t, ht, hfails⟩
  · rw [ht]
    exact .inl hmoves
  · rw [ht]
    exact .inr (.inl ⟨ending, hstops⟩)
  · rw [ht]
    exact .inr (.inr ⟨failure, hfails⟩)

/-! ### Runs -/

/-- Each event is enabled when it comes, and none comes after the end. -/
def Admits (k : Comparator) (s : Session) : List Event → Prop
  | [] => True
  | e :: events =>
    s.Enabled e ∧
      match s.step k e with
      | .running t => t.Admits k events
      | _ => events = []

instance (s : Session) : (e : Event) → Decidable (s.Enabled e)
  | .output _ | .errorOutput _ | .accepted _ => inferInstanceAs (Decidable (_ ∧ _))
  | .outputEnd | .errorEnd | .refused | .broken .input _ | .broken .output _ | .broken .errors _ =>
    inferInstanceAs (Decidable (_ = _))
  | .quiet => .isTrue trivial

instance Admits.decidable (k : Comparator) :
    (s : Session) → (events : List Event) → Decidable (s.Admits k events)
  | _, [] => .isTrue trivial
  | s, e :: events =>
    let later : Decidable (match s.step k e with
        | .running t => t.Admits k events
        | _ => events = []) :=
      match s.step k e with
      | .running t => Admits.decidable k t events
      | .ended _ _ | .failed _ _ => inferInstanceAs (Decidable (events = []))
    @instDecidableAnd _ _ inferInstance later

/-- The ending by which a run is judged: that of its session or, if it was still waiting, that time
was up. -/
inductive Progress.Concludes : Progress → Ending → Session → Prop
  | ended (ending : Ending) (s : Session) : Concludes (.ended ending s) ending s
  | timeUp (limit : Duration) (s : Session) : Concludes (.running s) (.timeLimit limit) s

/-- A whole run of a session: its events, the ending it is judged by, and the session it leaves. -/
structure Run (k : Comparator) (s₀ : Session) (events : List Event) (ending : Ending)
    (s : Session) : Prop where
  admits : s₀.Admits k events
  concludes : (s₀.play k events).Concludes ending s

/-- A session that is still waiting after these events. -/
structure Reaches (k : Comparator) (s₀ : Session) (events : List Event) (s : Session) : Prop where
  admits : s₀.Admits k events
  play : s₀.play k events = .running s

variable {s₀ : Session} {past events : List Event}

theorem Reaches.nil (k : Comparator) (s : Session) : Reaches k s [] s := ⟨trivial, rfl⟩

/-- A run in two parts. -/
theorem play_append (k : Comparator) (s : Session) (past events : List Event) :
    s.play k (past ++ events) =
      match s.play k past with
      | .running t => t.play k events
      | done => done := by
  induction past generalizing s with
  | nil => rfl
  | cons e past ih =>
    rw [List.cons_append, play, play]
    cases hstep : s.step k e with
    | running t => exact ih t
    | ended ending t => rfl
    | failed failure t => rfl

theorem admits_append (k : Comparator) (s : Session) (past events : List Event) :
    s.Admits k (past ++ events) ↔
      s.Admits k past ∧
        match s.play k past with
        | .running t => t.Admits k events
        | _ => events = [] := by
  induction past generalizing s with
  | nil => exact (iff_of_eq (true_and _)).symm
  | cons e past ih =>
    rw [List.cons_append, Admits, Admits, play]
    cases hstep : s.step k e with
    | running t =>
      dsimp only
      rw [ih t, and_assoc]
    | ended ending t =>
      dsimp only
      rw [List.append_eq_nil_iff, and_assoc]
    | failed failure t =>
      dsimp only
      rw [List.append_eq_nil_iff, and_assoc]

/-- If events were admitted and one more as well, the session was waiting for it. -/
theorem reaches_of_admits_concat (h : s₀.Admits k (past ++ [e])) :
    ∃ s, Reaches k s₀ past s ∧ s.Enabled e := by
  obtain ⟨hpast, hnext⟩ := (admits_append k s₀ past [e]).mp h
  cases hplay : s₀.play k past with
  | running s =>
    rw [hplay] at hnext
    exact ⟨s, ⟨hpast, hplay⟩, hnext.1⟩
  | ended ending s =>
    rw [hplay] at hnext
    cases hnext
  | failed failure s =>
    rw [hplay] at hnext
    cases hnext

theorem Reaches.play_concat (h : Reaches k s₀ past s) (e : Event) :
    s₀.play k (past ++ [e]) = s.step k e := by
  rw [play_append, h.play]
  show s.play k [e] = s.step k e
  rw [Session.play]
  cases s.step k e with
  | running t => rfl
  | ended ending t => rfl
  | failed failure t => rfl

theorem Reaches.concat (h : Reaches k s₀ past s) (henabled : s.Enabled e) (hmoves : Moves k s e t) :
    Reaches k s₀ (past ++ [e]) t := by
  have hstep : s.step k e = .running t := step_eq_running_iff.mpr hmoves
  refine ⟨(admits_append k s₀ past [e]).mpr ⟨h.admits, ?_⟩, ?_⟩
  · rw [h.play]
    refine ⟨henabled, ?_⟩
    rw [hstep]
    trivial
  · rw [h.play_concat, hstep]

/-- What holds at the start and is kept by every move of a session holds while it waits. -/
@[elab_as_elim]
theorem Reaches.induction {motive : ∀ events s, Reaches k s₀ events s → Prop}
    (start : motive [] s₀ (.nil k s₀))
    (move : ∀ past s e t (hpast : Reaches k s₀ past s) (henabled : s.Enabled e)
      (hmoves : Moves k s e t), motive past s hpast →
      motive (past ++ [e]) t (hpast.concat henabled hmoves))
    {events : List Event} {s : Session} (h : Reaches k s₀ events s) : motive events s h := by
  -- `play` runs from the front, but the invariant is carried over to the last event.
  induction events using List.reverseRecOn generalizing s with
  | nil =>
    cases h.play
    exact start
  | append_singleton past e ih =>
    obtain ⟨u, hu, henabled⟩ := reaches_of_admits_concat h.admits
    have hstep : u.step k e = .running s := by
      rw [← hu.play_concat e, h.play]
    exact move past u e s hu henabled (step_eq_running_iff.mp hstep) (ih hu)

/-- A run was cut while it waited, or it waited before its last event and that event stopped it. -/
theorem Run.cut_or_stopped (h : Run k s₀ events ending s) :
    (∃ limit, ending = .timeLimit limit ∧ Reaches k s₀ events s) ∨
      ∃ past e u, events = past ++ [e] ∧ Reaches k s₀ past u ∧ u.Enabled e ∧
        Stops k u e ending s := by
  cases hplay : s₀.play k events with
  | running t =>
    have hconcludes := h.concludes
    rw [hplay] at hconcludes
    cases hconcludes with
    | timeUp limit => exact .inl ⟨limit, rfl, h.admits, hplay⟩
  | failed failure t =>
    have hconcludes := h.concludes
    rw [hplay] at hconcludes
    cases hconcludes
  | ended ending' t =>
    have hconcludes := h.concludes
    rw [hplay] at hconcludes
    cases hconcludes
    induction events using List.reverseRecOn with
    | nil => cases hplay
    | append_singleton past e =>
      obtain ⟨u, hu, henabled⟩ := reaches_of_admits_concat h.admits
      have hstep : u.step k e = .ended ending s := by
        rw [← hu.play_concat e, hplay]
      exact .inr ⟨past, e, u, rfl, hu, henabled, step_eq_ended_iff.mp hstep⟩

/-! ### What is seen of a run from outside -/

/-- The output that an event brings. -/
def outputOf : Event → Bytes
  | .output chunk => chunk
  | _ => []

/-- All output that arrives in a run. -/
def outputRead (events : List Event) : Bytes := events.flatMap outputOf

@[simp] theorem outputRead_concat (past : List Event) (e : Event) :
    outputRead (past ++ [e]) = outputRead past ++ outputOf e := by
  simp [outputRead]

/-- The input that the program takes at an event. -/
def inputTakenAt (s : Session) : Event → Bytes
  | .accepted count => s.cursor.sent count
  | _ => []

/-- All input that the program takes in a run. -/
def inputTaken (k : Comparator) (s : Session) : List Event → Bytes
  | [] => []
  | e :: events =>
    s.inputTakenAt e ++
      match s.step k e with
      | .running t => t.inputTaken k events
      | _ => []

/-! ### What becomes of the input -/

/-- What an event does to the input, whether or not the session survives it. Quiet may stage the
next line or close the input, as long as nothing was wrong and both output streams are open.
Otherwise no more happens than that some of the staged chunk is taken. -/
inductive InputStep (s : Session) : Event → Session → Prop
  | stages {t : Session} (hout : s.stdoutOpen = true) (herr : s.stderrOpen = true)
      (hright : s.cursor.diverged = false) (hstaged : s.cursor.staged = [])
      (hunstaged : s.cursor.unstaged ≠ [])
      (hline : Bytes.splitFirstLine s.cursor.unstaged = (t.cursor.staged, t.cursor.unstaged))
      (hstdin : t.stdinOpen = s.stdinOpen) (hclosed : t.cursor.inputClosed = s.cursor.inputClosed) :
      InputStep s .quiet t
  | closes {t : Session} (hout : s.stdoutOpen = true) (herr : s.stderrOpen = true)
      (hright : s.cursor.diverged = false) (hstaged : s.cursor.staged = [])
      (hunstaged : s.cursor.unstaged = []) (hstaged' : t.cursor.staged = [])
      (hunstaged' : t.cursor.unstaged = []) (hstdin : t.stdinOpen = false)
      (hclosed : t.cursor.inputClosed = true) : InputStep s .quiet t
  | takes {e : Event} {t : Session} (htaken : s.inputTakenAt e ++ t.cursor.staged = s.cursor.staged)
      (hunstaged : t.cursor.unstaged = s.cursor.unstaged) (hstdin : t.stdinOpen = s.stdinOpen)
      (hclosed : t.cursor.inputClosed = s.cursor.inputClosed) : InputStep s e t

theorem inputStep_accepted {count : Nat} (hcursor : t.cursor = s.cursor.consumeInput count)
    (hstdin : t.stdinOpen = s.stdinOpen) : InputStep s (.accepted count) t := by
  refine .takes ?_ ?_ hstdin ?_
  · rw [hcursor]
    exact List.take_append_drop count s.cursor.staged
  · rw [hcursor]
    rfl
  · rw [hcursor]
    rfl

theorem inputStep_output (k : Comparator) {chunk : Bytes}
    (hcursor : t.cursor = (k.feed s.cursor chunk s.echo).cursor)
    (hstdin : t.stdinOpen = s.stdinOpen) : InputStep s (.output chunk) t := by
  rw [Comparator.feed_frame] at hcursor
  refine .takes ?_ ?_ hstdin ?_
  · rw [hcursor]
    rfl
  · rw [hcursor]
  · rw [hcursor]

theorem Moves.inputStep (h : Moves k s e t) : InputStep s e t := by
  cases h with
  | output hflow => exact inputStep_output k rfl rfl
  | accepted hcount hecho => exact inputStep_accepted rfl rfl
  | stages hout herr hpending hright hstage =>
    have hstaged := Cursor.hasPending_eq_false_iff.mp hpending
    obtain ⟨hne, hline⟩ := Cursor.splitFirstLine_of_stage? hstage
    rw [Cursor.remainingInput_of_staged_eq_nil hstaged] at hne hline
    refine .stages hout herr hright hstaged hne hline rfl ?_
    rw [Cursor.stage?_eq_some hstage]
  | closesInput hout herr hpending hright hstage hclosed =>
    have hstaged := Cursor.hasPending_eq_false_iff.mp hpending
    have hunstaged := Cursor.remainingInput_of_stage?_eq_none hstage
    rw [Cursor.remainingInput_of_staged_eq_nil hstaged] at hunstaged
    exact .closes hout herr hright hstaged hunstaged hstaged hunstaged rfl rfl
  | outputEnd | errorEnd | waitsForInput | waitsForOutput => exact .takes rfl rfl rfl rfl

theorem Stops.inputStep (h : Stops k s e ending t) : InputStep s e t := by
  cases h with
  | mismatchCap hflow => exact inputStep_output k rfl rfl
  | unterminated | outputEnd | errorOutput | errorEnd | acceptsNothing | refused | quiet
  | diverged => exact .takes rfl rfl rfl rfl

theorem Fails.inputStep (h : Fails k s e failure t) : InputStep s e t := by
  cases h with
  | output hflow => exact inputStep_output k rfl rfl
  | input hcount hecho => exact inputStep_accepted rfl rfl
  | broken => exact .takes rfl rfl rfl rfl

theorem inputStep_step (k : Comparator) (s : Session) (e : Event) :
    InputStep s e (s.step k e).session := by
  rcases step_session_spec k s e with hmoves | ⟨ending, hstops⟩ | ⟨failure, hfails⟩
  · exact hmoves.inputStep
  · exact hstops.inputStep
  · exact hfails.inputStep

/-- What an event takes of the input it takes from what was left. -/
theorem InputStep.inputTakenAt_append (h : InputStep s e t) :
    s.inputTakenAt e ++ t.cursor.remainingInput = s.cursor.remainingInput := by
  cases h with
  | stages hout herr hright hstaged hunstaged hline =>
    have hrest := Bytes.splitFirstLine_append s.cursor.unstaged
    rw [hline] at hrest
    rw [Cursor.remainingInput_of_staged_eq_nil hstaged]
    exact hrest
  | closes hout herr hright hstaged hunstaged hstaged' hunstaged' =>
    rw [Cursor.remainingInput, Cursor.remainingInput, hstaged, hunstaged, hstaged', hunstaged']
    rfl
  | takes htaken hunstaged =>
    rw [Cursor.remainingInput, Cursor.remainingInput, ← List.append_assoc, htaken, hunstaged]

/-! ### The trail of a session -/

/-- The events that a session takes, each with the session as it was when the event came. -/
def trail (k : Comparator) (s : Session) : List Event → List (Session × Event)
  | [] => []
  | e :: events =>
    (s, e) ::
      match s.step k e with
      | .running t => t.trail k events
      | _ => []

/-- What holds at once, and of a session if it holds of the session after one event more, holds of
every session, its trail, and the session that a run leaves behind. -/
theorem play_induction {motive : Session → List (Session × Event) → Session → Prop}
    (done : ∀ s, motive s [] s)
    (step : ∀ s e trail t, motive (s.step k e).session trail t → motive s ((s, e) :: trail) t)
    (s : Session) (events : List Event) :
    motive s (s.trail k events) (s.play k events).session := by
  induction events generalizing s with
  | nil => exact done s
  | cons e events ih =>
    rw [trail, play]
    refine step s e _ _ ?_
    cases s.step k e with
    | running t => exact ih t
    | ended ending t => exact done t
    | failed failure t => exact done t

theorem trail_append (k : Comparator) (s : Session) (past events : List Event) :
    s.trail k (past ++ events) =
      s.trail k past ++
        match s.play k past with
        | .running t => t.trail k events
        | _ => [] := by
  induction past generalizing s with
  | nil => rfl
  | cons e past ih =>
    rw [List.cons_append, trail, trail, play]
    cases s.step k e with
    | running t =>
      dsimp only
      rw [ih t, List.cons_append]
    | ended ending t => rfl
    | failed failure t => rfl

theorem Reaches.trail_concat (h : Reaches k s₀ past s) (e : Event) :
    s₀.trail k (past ++ [e]) = s₀.trail k past ++ [(s, e)] := by
  have hlast : s.trail k [e] = [(s, e)] := by
    rw [trail]
    cases s.step k e <;> rfl
  rw [trail_append, h.play, ← hlast]

theorem inputTaken_eq_flatMap_trail (k : Comparator) (s : Session) (events : List Event) :
    s.inputTaken k events = (s.trail k events).flatMap fun (u, e) => u.inputTakenAt e := by
  induction events generalizing s with
  | nil => rfl
  | cons e events ih =>
    rw [inputTaken, trail, List.flatMap_cons]
    cases s.step k e with
    | running t =>
      dsimp only
      rw [ih t]
    | ended ending t => rfl
    | failed failure t => rfl

theorem inputTaken_append (k : Comparator) (s : Session) (past events : List Event) :
    s.inputTaken k (past ++ events) =
      s.inputTaken k past ++
        match s.play k past with
        | .running t => t.inputTaken k events
        | _ => [] := by
  rw [inputTaken_eq_flatMap_trail, trail_append, List.flatMap_append, inputTaken_eq_flatMap_trail]
  cases s.play k past with
  | running t =>
    dsimp only
    rw [inputTaken_eq_flatMap_trail]
  | ended ending t => rfl
  | failed failure t => rfl

/-- **No input is lost or made up.** Whatever the events, what the program took and what is left are
what there was. -/
theorem inputTaken_append_remainingInput (k : Comparator) (s : Session) (events : List Event) :
    s.inputTaken k events ++ (s.play k events).session.cursor.remainingInput =
      s.cursor.remainingInput := by
  rw [inputTaken_eq_flatMap_trail]
  refine play_induction (motive := fun s trail t =>
    (trail.flatMap fun (u, e) => u.inputTakenAt e) ++ t.cursor.remainingInput =
      s.cursor.remainingInput) (fun s => rfl) ?_ s events
  intro s e trail t ih
  rw [List.flatMap_cons, List.append_assoc, ih]
  exact (inputStep_step k s e).inputTakenAt_append

/-! ### What one event keeps

Of a cursor: how the output compares, and how many lines of it were wrong. -/

variable {expected output : Bytes}

/-- A move leaves the cursor where it belongs after the output that it brings. -/
theorem Moves.compared (h : Moves k s e t)
    (hcompared : Comparator.Compared expected output s.cursor) :
    Comparator.Compared expected (output ++ outputOf e) t.cursor := by
  cases h with
  | output hflow => exact hcompared.feed_more hflow
  | stages hout herr hpending hright hstage =>
    simp only [outputOf, List.append_nil]
    rw [Cursor.stage?_eq_some hstage]
    exact hcompared.of_eq rfl rfl rfl
  | outputEnd | errorEnd | accepted | waitsForInput | closesInput | waitsForOutput =>
    simp only [outputOf, List.append_nil]
    exact hcompared.of_eq rfl rfl rfl

/-- So does the event that ends a session, unless the cap cut the comparison short. -/
theorem Stops.compared (h : Stops k s e ending t) (hending : ending ≠ .mismatchCap)
    (hcompared : Comparator.Compared expected output s.cursor) :
    Comparator.Compared expected (output ++ outputOf e) t.cursor := by
  cases h with
  | mismatchCap hflow => exact absurd rfl hending
  | unterminated | outputEnd | errorOutput | errorEnd | acceptsNothing | refused | quiet
  | diverged =>
    simp only [outputOf, List.append_nil]
    exact hcompared.of_eq rfl rfl rfl

/-- A move stays below the cap. -/
theorem Moves.size_lt (h : Moves k s e t) (hsize : s.cursor.mismatches.size < k.cap) :
    t.cursor.mismatches.size < k.cap := by
  cases h with
  | output hflow => exact k.feed_size_lt _ s.echo hsize (by rw [hflow]; simp)
  | stages hout herr hpending hright hstage =>
    rw [Cursor.stage?_eq_some hstage]
    exact hsize
  | outputEnd | errorEnd | accepted | waitsForInput | closesInput | waitsForOutput => exact hsize

/-- The event that ends a session stays below the cap, unless the session ends by reaching it. -/
theorem Stops.size_lt (h : Stops k s e ending t) (hending : ending ≠ .mismatchCap)
    (hsize : s.cursor.mismatches.size < k.cap) : t.cursor.mismatches.size < k.cap := by
  cases h with
  | mismatchCap hflow => exact absurd rfl hending
  | unterminated | outputEnd | errorOutput | errorEnd | acceptsNothing | refused | quiet
  | diverged => exact hsize

theorem Stops.size_eq (h : Stops k s e .mismatchCap t) (hsize : s.cursor.mismatches.size < k.cap) :
    t.cursor.mismatches.size = k.cap := by
  cases h with
  | mismatchCap hflow => exact k.feed_size_eq _ s.echo hsize hflow

/-- A session waits on after quiet only if the error stream is open. -/
theorem Moves.stderrOpen_of_quiet (h : Moves k s .quiet t) : s.stderrOpen = true := by
  cases h <;> assumption

/-! ### What holds while a session waits -/

section Start

variable {input : Bytes} {echo : Sink}

/-- The cursor is where it belongs after the output that arrived. -/
theorem Reaches.compared (h : Reaches k (.start input expected echo) events s) :
    Comparator.Compared expected (outputRead events) s.cursor := by
  induction h using Reaches.induction with
  | start => exact .start input expected
  | move past s e t hpast henabled hmoves ih =>
    rw [outputRead_concat]
    exact hmoves.compared ih

/-- The cap is not reached. -/
theorem Reaches.size_lt (hcap : 0 < k.cap) (h : Reaches k (.start input expected echo) events s) :
    s.cursor.mismatches.size < k.cap := by
  induction h using Reaches.induction with
  | start => exact hcap
  | move past s e t hpast henabled hmoves ih => exact hmoves.size_lt ih

/-- Output that has ended did not end inside a line, and nothing arrives after it. -/
theorem Reaches.carry_eq_nil (h : Reaches k (.start input expected echo) events s)
    (hended : s.stdoutOpen = false) : s.cursor.carry = [] := by
  induction h using Reaches.induction with
  | start => cases hended
  | move past s e t hpast henabled hmoves ih =>
    cases hmoves with
    | output hflow =>
      rw [henabled.1] at hended
      cases hended
    | outputEnd hcarry hopen => exact hcarry
    | stages hout herr hpending hright hstage =>
      rw [hout] at hended
      cases hended
    | errorEnd | accepted | waitsForInput | closesInput | waitsForOutput => exact ih hended

/-- A session that waits knows whether output has ended. -/
theorem Reaches.outputEnd_mem_iff (h : Reaches k (.start input expected echo) events s) :
    .outputEnd ∈ events ↔ s.stdoutOpen = false := by
  induction h using Reaches.induction with
  | start => simp [start]
  | move past s e t hpast henabled hmoves ih =>
    rw [List.mem_append, List.mem_singleton, ih]
    cases hmoves <;> simp

/-- A session that waits knows whether error output has ended. -/
theorem Reaches.errorEnd_mem_iff (h : Reaches k (.start input expected echo) events s) :
    .errorEnd ∈ events ↔ s.stderrOpen = false := by
  induction h using Reaches.induction with
  | start => simp [start]
  | move past s e t hpast henabled hmoves ih =>
    rw [List.mem_append, List.mem_singleton, ih]
    cases hmoves <;> simp

/-- A session that waits has seen no error output. -/
theorem Reaches.errorOutput_not_mem (h : Reaches k s₀ events s) (chunk : Bytes) :
    .errorOutput chunk ∉ events := by
  induction h using Reaches.induction with
  | start => simp
  | move past s e t hpast henabled hmoves ih =>
    rw [List.mem_append, List.mem_singleton, not_or]
    refine ⟨ih, ?_⟩
    intro he
    subst he
    cases hmoves

/-! ### What holds when a run is over -/

theorem Run.play_session (h : Run k s₀ events ending s) : (s₀.play k events).session = s := by
  have hconcludes := h.concludes
  generalize s₀.play k events = progress at hconcludes ⊢
  cases hconcludes <;> rfl

/-- However a run ends, what was taken of the input and what is left of it make up all of it. -/
theorem Run.inputTaken_append (h : Run k (.start input expected echo) events ending s) :
    (start input expected echo).inputTaken k events ++ s.cursor.remainingInput = input := by
  rw [← h.play_session]
  exact inputTaken_append_remainingInput k _ events

/-- Unless the cap was reached, the cursor is where it belongs after all of the output. -/
theorem Run.compared (h : Run k (.start input expected echo) events ending s)
    (hending : ending ≠ .mismatchCap) :
    Comparator.Compared expected (outputRead events) s.cursor := by
  rcases h.cut_or_stopped with ⟨limit, -, hwaits⟩ | ⟨past, e, u, rfl, hu, -, hstops⟩
  · exact hwaits.compared
  · rw [outputRead_concat]
    exact hstops.compared hending hu.compared

theorem Run.size_lt (hcap : 0 < k.cap) (h : Run k (.start input expected echo) events ending s)
    (hending : ending ≠ .mismatchCap) : s.cursor.mismatches.size < k.cap := by
  rcases h.cut_or_stopped with ⟨limit, -, hwaits⟩ | ⟨past, e, u, -, hu, -, hstops⟩
  · exact hwaits.size_lt hcap
  · exact hstops.size_lt hending (hu.size_lt hcap)

theorem Run.size_eq (hcap : 0 < k.cap)
    (h : Run k (.start input expected echo) events .mismatchCap s) :
    s.cursor.mismatches.size = k.cap := by
  rcases h.cut_or_stopped with ⟨limit, hcut, -⟩ | ⟨past, e, u, -, hu, -, hstops⟩
  · cases hcut
  · exact hstops.size_eq (hu.size_lt hcap)

/-- A session that gives up on wrong lines has seen one, and nothing was being sent. -/
theorem Run.of_diverged (h : Run k s₀ events .diverged s) :
    s.cursor.diverged = true ∧ s.cursor.staged = [] := by
  rcases h.cut_or_stopped with ⟨limit, hcut, -⟩ | ⟨past, e, u, -, -, -, hstops⟩
  · cases hcut
  · cases hstops with
    | diverged hout herr hpending hwrong =>
      exact ⟨hwrong, by simpa [Cursor.hasPending] using hpending⟩

/-- Error output is the last that a session sees, and what it ends by. -/
theorem Run.errorOutput_mem_iff (h : Run k s₀ events ending s) (chunk : Bytes) :
    .errorOutput chunk ∈ events ↔ ending = .errorOutput chunk := by
  rcases h.cut_or_stopped with ⟨limit, rfl, hwaits⟩ | ⟨past, e, u, rfl, hu, -, hstops⟩
  · exact iff_of_false (hwaits.errorOutput_not_mem chunk) (by simp)
  · rw [List.mem_append, List.mem_singleton, or_iff_right (hu.errorOutput_not_mem chunk)]
    cases hstops <;> simp [eq_comm]

/-! ### Output that stops inside a line -/

/-- The output ended while a line of it was unfinished. -/
def EndsInsideLine (k : Comparator) (s₀ : Session) (events : List Event) : Prop :=
  ∃ past rest s, events = past ++ .outputEnd :: rest ∧ s₀.play k past = .running s ∧
    s.cursor.carry ≠ []

/-- The error stream ended, the output did not, and the last that happened is that nothing came
after an unfinished line. -/
def QuietInsideLine (events : List Event) : Prop :=
  events.getLast? = some .quiet ∧ .errorEnd ∈ events ∧ .outputEnd ∉ events ∧
    (Bytes.splitLines (outputRead events)).2 ≠ []

instance (events : List Event) : Decidable (QuietInsideLine events) :=
  inferInstanceAs (Decidable (_ ∧ _))

theorem Run.endsInsideLine_iff (h : Run k s₀ events ending s) :
    EndsInsideLine k s₀ events ↔ ending = .unterminated := by
  constructor
  · -- The session ends with its output, so what comes after that does not matter.
    rintro ⟨past, rest, u, rfl, hplay, hcarry⟩
    have hconcludes := h.concludes
    rw [play_append, hplay] at hconcludes
    dsimp only at hconcludes
    rw [play, step_eq_ended_iff.mpr (.unterminated hcarry)] at hconcludes
    cases hconcludes
    rfl
  · rintro rfl
    rcases h.cut_or_stopped with ⟨limit, hcut, -⟩ | ⟨past, e, u, rfl, hu, -, hstops⟩
    · cases hcut
    · cases hstops with
      | unterminated hcarry => exact ⟨past, [], s, rfl, hu.play, hcarry⟩

/-- A session that is closed keeps an unfinished line only if quiet closed it. -/
theorem Run.quiet_of_carry (h : Run k (.start input expected echo) events .closed s)
    (hcarry : s.cursor.carry ≠ []) :
    events.getLast? = some .quiet ∧ .errorEnd ∈ events ∧ .outputEnd ∉ events := by
  rcases h.cut_or_stopped with ⟨limit, hcut, -⟩ | ⟨past, e, u, rfl, hu, -, hstops⟩
  · cases hcut
  · cases hstops with
    | outputEnd hnil hended => exact absurd hnil hcarry
    | errorEnd hended => exact absurd (hu.carry_eq_nil hended) hcarry
    | quiet hended =>
      -- Ended output leaves no unfinished line, so it is the error stream that has ended.
      have hopen : ¬ s.stdoutOpen = false := fun hout => hcarry (hu.carry_eq_nil hout)
      refine ⟨List.getLast?_concat, ?_, ?_⟩
      · exact List.mem_append_left _ (hu.errorEnd_mem_iff.mpr (hended.resolve_left hopen))
      · rw [List.mem_append, hu.outputEnd_mem_iff]
        simp [hopen]

/-- Once the error stream has ended, quiet closes a session. -/
theorem Run.closed_of_quiet (h : Run k (.start input expected echo) events ending s)
    (hlast : events.getLast? = some .quiet) (hended : .errorEnd ∈ events) : ending = .closed := by
  -- Cut or stopped, the last event is quiet, and the error stream had ended before it.
  obtain ⟨past, rfl⟩ := List.getLast?_eq_some_iff.mp hlast
  have hpast : .errorEnd ∈ past := by simpa using hended
  rcases h.cut_or_stopped with ⟨limit, rfl, hwaits⟩ | ⟨past', e, u, hevents, hu, -, hstops⟩
  · obtain ⟨u, hu, -⟩ := reaches_of_admits_concat hwaits.admits
    have herr : u.stderrOpen = false := hu.errorEnd_mem_iff.mp hpast
    have hstep : u.step k .quiet = .running s := by
      rw [← hu.play_concat .quiet, hwaits.play]
    rw [(step_eq_running_iff.mp hstep).stderrOpen_of_quiet] at herr
    cases herr
  · obtain ⟨rfl, he⟩ := List.append_inj' hevents rfl
    have herr : u.stderrOpen = false := hu.errorEnd_mem_iff.mp hpast
    cases he
    cases hstops with
    | quiet hquiet => rfl
    | diverged hout hopen =>
      rw [herr] at hopen
      cases hopen

/-- Only quiet can close a session in the middle of a line of output. -/
theorem Run.quietInsideLine_iff (h : Run k (.start input expected echo) events ending s) :
    QuietInsideLine events ↔ ending = .closed ∧ s.cursor.carry ≠ [] := by
  constructor
  · rintro ⟨hlast, hended, -, hrest⟩
    obtain rfl := h.closed_of_quiet hlast hended
    rw [(h.compared (by simp)).carry]
    exact ⟨rfl, hrest⟩
  · rintro ⟨rfl, hcarry⟩
    obtain ⟨hlast, hended, hopen⟩ := h.quiet_of_carry hcarry
    rw [(h.compared (by simp)).carry] at hcarry
    exact ⟨hlast, hended, hopen, hcarry⟩

end Start

end Session

end Rehearsal
