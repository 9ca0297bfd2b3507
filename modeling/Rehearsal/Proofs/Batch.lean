import Rehearsal.Batch
import Rehearsal.Proofs.Except
import Rehearsal.Proofs.Session.AnySink

/-!
# Which tests a run starts, and what it makes of them

`attempt` is what becomes of one test case when nothing is in its way, and `attempts` is what
becomes of several, each in the world that the one before it leaves. A run starts them in order
until one of them `stops` it: a failure always does, and an outcome if the policy says so. The
results up to that one are `started`.

A run also writes, and what it writes to may refuse it. `Yields` says what a part of a run comes to
if that does not happen. It is put together as the run is (`Yields.bind`), so there is one lemma for
each part, from `yields_write` to `yields_playAll`.

The main statement, `play_runs_until_stopped`, is about runs on a sink without a limit. It has two
halves. One says which test cases were started, by what the world is afterwards and by what the run
does not depend on (`play_congr`); the other says what the run makes of their results
(`accounts_of_play`).
-/

namespace Rehearsal

/-! ### The runner of a configuration -/

namespace Config

variable {c : Config}

theorem lengths_of_validate (h : c.validate = .ok ()) :
    (∃ timing, c.timing = .ok timing) ∧ ∃ timeLimit, c.timeLimitDuration = .ok timeLimit := by
  rw [validate] at h
  split at h
  · cases h
  · dsimp only at h
    split at h
    · cases h
    · -- The lengths of time are checked last.
      obtain ⟨_, -, h⟩ := bind_eq_ok_iff.mp h
      obtain ⟨_, htiming, h⟩ := bind_eq_ok_iff.mp h
      constructor
      · cases hlength : c.timing with
        | ok timing => exact ⟨timing, rfl⟩
        | error cause =>
          rw [hlength] at htiming
          cases htiming
      · cases hlength : c.timeLimitDuration with
        | ok timeLimit => exact ⟨timeLimit, rfl⟩
        | error cause =>
          rw [hlength] at h
          cases h

/-- There is a runner if and only if the configuration can be run. -/
theorem runner_ok_iff : (∃ r, c.runner = .ok r) ↔ c.validate = .ok () := by
  constructor
  · rintro ⟨r, hr⟩
    obtain ⟨_, hvalid, -⟩ := bind_eq_ok_iff.mp hr
    exact hvalid
  · intro h
    obtain ⟨⟨timing, htiming⟩, timeLimit, htimeLimit⟩ := lengths_of_validate h
    rw [runner, h, htiming, htimeLimit]
    exact ⟨_, rfl⟩

end Config

namespace Batch

variable {World : Type}

/-! ### One test case after the other -/

section Attempts

variable (stage : Stage World) (r : Runner)

/-- What becomes of a test case if all that it shows is taken, and of the world. -/
def attempt (w : World) (f : TestFile) : Except Failure Outcome × World :=
  match stage.load w f with
  | .error cause => (.error (.notLoaded cause), w)
  | .ok t => ((stage.run w r t {}).1.mapError .notRun, (stage.run w r t {}).2.2)

/-- What becomes of each test case, in the world that the one before it leaves. -/
def attempts (w : World) : List TestFile → List (Except Failure Outcome)
  | [] => []
  | f :: fs => (attempt stage r w f).1 :: attempts (attempt stage r w f).2 fs

/-- The world after these test cases. -/
def worldAfter (w : World) (fs : List TestFile) : World :=
  fs.foldl (fun w f => (attempt stage r w f).2) w

theorem length_attempts (w : World) (fs : List TestFile) :
    (attempts stage r w fs).length = fs.length := by
  induction fs generalizing w with
  | nil => rfl
  | cons f fs ih => rw [attempts, List.length_cons, List.length_cons, ih]

theorem attempts_take (w : World) (fs : List TestFile) (n : Nat) :
    attempts stage r w (fs.take n) = (attempts stage r w fs).take n := by
  induction fs generalizing w n with
  | nil => rw [attempts, List.take_nil, List.take_nil, attempts]
  | cons f fs ih =>
    cases n with
    | zero => rfl
    | succ n => rw [List.take_succ_cons, attempts, attempts, List.take_succ_cons, ih]

end Attempts

/-! ### Until one of them stops the run -/

section Started

variable (policy : UnterminatedPolicy)

/-- Is this the result of the last test case that a run starts? -/
def stops : Except Failure Outcome → Bool
  | .error _ => true
  | .ok o => breaksOff policy o

/-- The first of these results, up to and with the one that stops the run. -/
def started : List (Except Failure Outcome) → List (Except Failure Outcome)
  | [] => []
  | x :: xs => if stops policy x then [x] else x :: started xs

theorem started_prefix_all (xs : List (Except Failure Outcome)) : started policy xs <+: xs := by
  induction xs with
  | nil => exact List.prefix_refl _
  | cons x xs ih =>
    rw [started]
    split
    · exact List.prefix_append [x] xs
    · exact (List.prefix_cons_inj x).mpr ih

theorem started_ne_nil {xs : List (Except Failure Outcome)} (h : xs ≠ []) :
    started policy xs ≠ [] := by
  cases xs with
  | nil => exact absurd rfl h
  | cons x xs =>
    rw [started]
    split <;> exact List.cons_ne_nil _ _

/-- A run starts all test cases, or the last that it starts stops it. No other does. -/
theorem started_cases (xs : List (Except Failure Outcome)) :
    (started policy xs = xs ∧ ∀ x ∈ xs, stops policy x = false) ∨
      ∃ before last, started policy xs = before ++ [last] ∧
        (∀ x ∈ before, stops policy x = false) ∧ stops policy last = true := by
  induction xs with
  | nil => exact .inl ⟨rfl, by simp⟩
  | cons x xs ih =>
    rw [started]
    split
    · next hstops => exact .inr ⟨[], x, rfl, by simp, hstops⟩
    · next hgoes =>
      have hgoes : stops policy x = false := Bool.eq_false_iff.mpr hgoes
      rcases ih with ⟨hall, hnone⟩ | ⟨before, last, heq, hbefore, hlast⟩
      · exact .inl ⟨by rw [hall], List.forall_mem_cons.mpr ⟨hgoes, hnone⟩⟩
      · refine .inr ⟨x :: before, last, by rw [heq, List.cons_append], ?_, hlast⟩
        exact List.forall_mem_cons.mpr ⟨hgoes, hbefore⟩

/-- The outcomes among results, unless there is a failure: then the first one. -/
def collect : List (Except Failure Outcome) → Except Failure (List Outcome)
  | [] => .ok []
  | .error failure :: _ => .error failure
  | .ok o :: xs => (collect xs).map (o :: ·)

theorem collect_eq_ok_iff {xs : List (Except Failure Outcome)} {os : List Outcome} :
    collect xs = .ok os ↔ os.map .ok = xs := by
  induction xs generalizing os with
  | nil =>
    rw [collect, List.map_eq_nil_iff, Except.ok.injEq]
    exact eq_comm
  | cons x xs ih =>
    cases x with
    | error failure =>
      rw [collect]
      cases os <;> simp
    | ok o =>
      rw [collect]
      cases os with
      | nil => cases collect xs <;> simp [Except.map]
      | cons p os =>
        rw [List.map_cons, List.cons.injEq, ← ih]
        cases collect xs <;> simp [Except.map, eq_comm]

theorem collect_ok_iff {xs : List (Except Failure Outcome)} :
    (∃ outcomes, collect xs = .ok outcomes) ↔ ∀ x ∈ xs, ∃ o, x = .ok o := by
  constructor
  · rintro ⟨outcomes, h⟩ x hx
    rw [← collect_eq_ok_iff.mp h] at hx
    obtain ⟨o, -, rfl⟩ := List.mem_map.mp hx
    exact ⟨o, rfl⟩
  · intro h
    induction xs with
    | nil => exact ⟨[], rfl⟩
    | cons x xs ih =>
      obtain ⟨⟨o, rfl⟩, hrest⟩ := List.forall_mem_cons.mp h
      obtain ⟨outcomes, houtcomes⟩ := ih hrest
      exact ⟨o :: outcomes, by rw [collect, houtcomes, Except.map]⟩

/-- A failure is the last result of those that a run starts. -/
theorem started_of_collect_eq_error {xs : List (Except Failure Outcome)} {failure : Failure}
    (h : collect (started policy xs) = .error failure) :
    ∃ before : List Outcome, started policy xs = before.map .ok ++ [.error failure] := by
  induction xs with
  | nil => cases h
  | cons x xs ih =>
    cases x with
    | error cause =>
      cases h
      exact ⟨[], rfl⟩
    | ok o =>
      rw [started] at h ⊢
      split at h
      · cases h
      · next hgoes =>
        rw [if_neg hgoes]
        rw [collect] at h
        cases hrest : collect (started policy xs) with
        | ok outcomes =>
          rw [hrest] at h
          cases h
        | error cause =>
          rw [hrest] at h
          cases h
          obtain ⟨before, hbefore⟩ := ih hrest
          exact ⟨o :: before, by rw [hbefore, List.map_cons, List.cons_append]⟩

/-- If there is no failure, there is an outcome for every test case and none breaks the run off, or
the last outcome does and no other. -/
theorem outcomes_of_started {xs : List (Except Failure Outcome)} {outcomes : List Outcome}
    (h : outcomes.map .ok = started policy xs) :
    (outcomes.length = xs.length ∧ ∀ o ∈ outcomes, breaksOff policy o = false) ∨
      ∃ before last, outcomes = before ++ [last] ∧ (∀ o ∈ before, breaksOff policy o = false) ∧
        breaksOff policy last = true := by
  have hmem (o : Outcome) (results : List (Except Failure Outcome))
      (hnone : ∀ x ∈ results, stops policy x = false) (ho : .ok o ∈ results) :
      breaksOff policy o = false := hnone (.ok o) ho
  rcases started_cases policy xs with ⟨hall, hnone⟩ | ⟨before, last, hlast, hnone, hstops⟩
  · rw [hall] at h
    left
    refine ⟨by rw [← h, List.length_map], fun o ho => hmem o xs hnone ?_⟩
    rw [← h]
    exact List.mem_map_of_mem ho
  · rw [hlast, List.map_eq_append_iff] at h
    obtain ⟨front, back, rfl, hfront, hback⟩ := h
    obtain ⟨o, rfl, rfl⟩ := List.map_eq_singleton_iff.mp hback
    right
    refine ⟨front, o, rfl, fun p hp => hmem p before hnone ?_, hstops⟩
    rw [← hfront]
    exact List.mem_map_of_mem hp

theorem breaksOff_abortBatch_iff {o : Outcome} :
    breaksOff .abortBatch o = true ↔ o.verdict.reason? = some .unterminatedOutput := by
  simp [breaksOff]

theorem breaksOff_failCase (o : Outcome) : breaksOff .failCase o = false := by
  simp [breaksOff]

end Started

/-! ### What a part of a run comes to -/

variable {α β : Type}

/-- On this scene, this part of a run comes to `result` and leaves the world `w`, unless the sink
refuses something. A sink without a limit does not, and stays without one. -/
def Yields (x : Act World α) (scene : Scene World) (result : Except Failure α) (w : World) : Prop :=
  (∃ out : Sink, (scene.out.room = none → out.room = none) ∧ x scene = (result, ⟨w, out⟩)) ∨
    scene.out.room ≠ none ∧ ∃ failure after, x scene = (.error failure, after)

namespace Yields

variable {x : Act World α} {f : α → Act World β} {scene scene' : Scene World} {w w' : World}
variable {a : α} {failure : Failure} {result : Except Failure α} {result' : Except Failure β}

theorem pure (a : α) (scene : Scene World) :
    Yields (Pure.pure a : Act World α) scene (.ok a) scene.world := .inl ⟨scene.out, id, rfl⟩

/-- A part that is another one on a later scene. -/
theorem of_eq {y : Act World α} (hy : Yields y scene' result w) (h : x scene = y scene')
    (hroom : scene.out.room = none → scene'.out.room = none) : Yields x scene result w := by
  rcases hy with ⟨out, hout, hy⟩ | ⟨hlimited, failure, after, hy⟩
  · exact .inl ⟨out, hout ∘ hroom, h.trans hy⟩
  · exact .inr ⟨mt hroom hlimited, failure, after, h.trans hy⟩

/-- One part after another. -/
theorem bind (hx : Yields x scene (.ok a) w)
    (hf : ∀ out, Yields (f a) ⟨w, out⟩ result' w') : Yields (x >>= f) scene result' w' := by
  rcases hx with ⟨out, hout, hx⟩ | ⟨hlimited, failure, after, hx⟩
  · refine (hf out).of_eq ?_ hout
    rw [bind_apply, hx]
  · refine .inr ⟨hlimited, failure, after, ?_⟩
    rw [bind_apply, hx]

/-- A failure is the end of a run. -/
theorem bind_error (hx : Yields x scene (.error failure) w) :
    Yields (x >>= f) scene (.error failure) w := by
  rcases hx with ⟨out, hout, hx⟩ | ⟨hlimited, failure', after, hx⟩
  · refine .inl ⟨out, hout, ?_⟩
    rw [bind_apply, hx]
  · refine .inr ⟨hlimited, failure', after, ?_⟩
    rw [bind_apply, hx]

theorem of_room_eq_none (h : Yields x scene result w) (hroom : scene.out.room = none) :
    ∃ out : Sink, out.room = none ∧ x scene = (result, ⟨w, out⟩) := by
  rcases h with ⟨out, hout, hx⟩ | ⟨hlimited, -⟩
  · exact ⟨out, hout hroom, hx⟩
  · exact absurd hroom hlimited

/-- A part that succeeds was not refused anything. -/
theorem of_ok (h : Yields x scene result w) (hx : (x scene).1 = .ok a) : result = .ok a := by
  rcases h with ⟨out, -, hout⟩ | ⟨-, failure, after, hafter⟩
  · rw [hout] at hx
    exact hx
  · rw [hafter] at hx
    cases hx

end Yields

theorem write_apply (data : Bytes) (scene : Scene World) :
    write data scene =
      match scene.out.write data with
      | .ok out => (.ok (), { scene with out })
      | .error out => (.error .sinkFull, { scene with out }) := by
  show (match scene.out.write data with
    | .ok out => _
    | .error out => _ : Act World Unit) scene = _
  cases scene.out.write data with
  | ok out => rfl
  | error out => rfl

theorem yields_write (data : Bytes) (scene : Scene World) :
    Yields (write data) scene (.ok ()) scene.world := by
  have happly := write_apply data scene
  cases hwrite : scene.out.write data with
  | ok out =>
    rw [hwrite] at happly
    refine .inl ⟨out, fun hroom => ?_, happly⟩
    rw [Sink.write_of_room_eq_none hroom] at hwrite
    cases hwrite
    exact hroom
  | error out =>
    rw [hwrite] at happly
    obtain ⟨room, hroom, -⟩ := Sink.contents_write_full hwrite
    refine .inr ⟨?_, _, _, happly⟩
    rw [hroom]
    exact Option.some_ne_none room

/-! ### The parts of a run -/

section Parts

variable (stage : Stage World) (r : Runner)

theorem playLoaded_apply (t : Testcase) (scene : Scene World) :
    playLoaded stage r t scene =
      (match (stage.run scene.world r t scene.out).1 with
        | .error cause => throw (.notRun cause)
        | .ok o => do
          write o.verdict.diagnostic
          return o : Act World Outcome)
        ⟨(stage.run scene.world r t scene.out).2.2, (stage.run scene.world r t scene.out).2.1⟩ :=
  rfl

theorem playFile_apply (f : TestFile) (scene : Scene World) :
    playFile stage r f scene =
      match stage.load scene.world f with
      | .error cause => (.error (.notLoaded cause), scene)
      | .ok t => playLoaded stage r t scene := by
  show (match stage.load scene.world f with
    | .error cause => _
    | .ok t => _ : Act World Outcome) scene = _
  cases stage.load scene.world f with
  | error cause => rfl
  | ok t => rfl

theorem yields_playLoaded (t : Testcase) (scene : Scene World) :
    Yields (playLoaded stage r t) scene ((stage.run scene.world r t {}).1.mapError .notRun)
      (stage.run scene.world r t {}).2.2 := by
  have happly := playLoaded_apply stage r t scene
  obtain ⟨hworld, ⟨hresult, hroom⟩ | ⟨hlimited, failure, hrefused⟩⟩ :=
    stage.run_any_sink scene.world r t scene.out
  · rw [hworld, hresult] at happly
    cases hrun : (stage.run scene.world r t {}).1 with
    | error cause =>
      rw [hrun] at happly
      exact .inl ⟨_, hroom, happly⟩
    | ok o =>
      rw [hrun] at happly
      have hwrites : Yields (do write o.verdict.diagnostic; return o)
          ⟨(stage.run scene.world r t {}).2.2, (stage.run scene.world r t scene.out).2.1⟩ (.ok o)
          (stage.run scene.world r t {}).2.2 :=
        .bind (yields_write _ _) fun out => .pure o _
      exact hwrites.of_eq happly hroom
  · rw [hrefused] at happly
    exact .inr ⟨hlimited, _, _, happly⟩

theorem yields_playFile (f : TestFile) (scene : Scene World) :
    Yields (playFile stage r f) scene (attempt stage r scene.world f).1
      (attempt stage r scene.world f).2 := by
  have happly := playFile_apply stage r f scene
  rw [attempt]
  cases hload : stage.load scene.world f with
  | error cause =>
    rw [hload] at happly
    exact .inl ⟨scene.out, id, happly⟩
  | ok t =>
    rw [hload] at happly
    exact (yields_playLoaded stage r t scene).of_eq happly id

/-- A test case with all that is written over its section. -/
def playSection (first : Bool) (f : TestFile) : Act World Outcome := do
  unless first do write [Bytes.newline]
  write (header r f.inputPath)
  playFile stage r f

theorem playFiles_cons (policy : UnterminatedPolicy) (first : Bool) (f : TestFile)
    (fs : List TestFile) :
    playFiles stage r policy first (f :: fs) = do
      let o ← playSection stage r first f
      if breaksOff policy o then return ([o], true)
      let (outcomes, aborted) ← playFiles stage r policy false fs
      return (o :: outcomes, aborted) := by
  rw [playFiles, playSection]
  cases first with
  | true => simp only [↓reduceIte, bind_assoc]
  | false => simp only [Bool.false_eq_true, ↓reduceIte, bind_assoc]

theorem yields_playSection (first : Bool) (f : TestFile) (scene : Scene World) :
    Yields (playSection stage r first f) scene (attempt stage r scene.world f).1
      (attempt stage r scene.world f).2 := by
  have hbelow (scene : Scene World) :
      Yields (do write (header r f.inputPath); playFile stage r f) scene
        (attempt stage r scene.world f).1 (attempt stage r scene.world f).2 :=
    .bind (yields_write _ _) fun out => yields_playFile stage r f ⟨scene.world, out⟩
  rw [playSection]
  cases first with
  | true => exact hbelow scene
  | false => exact .bind (yields_write _ _) fun out => hbelow ⟨scene.world, out⟩

/-- The loop over the test cases comes to the outcomes of those that it starts, and to whether one
of them broke it off. -/
theorem yields_playFiles (policy : UnterminatedPolicy) (first : Bool) (fs : List TestFile)
    (scene : Scene World) :
    Yields (playFiles stage r policy first fs) scene
      ((collect (started policy (attempts stage r scene.world fs))).map fun outcomes =>
        (outcomes, outcomes.any (breaksOff policy)))
      (worldAfter stage r scene.world
        (fs.take (started policy (attempts stage r scene.world fs)).length)) := by
  -- Every test case leaves its own scene to the next, so this is shown of all scenes at once.
  induction fs generalizing first scene with
  | nil => exact .pure ([], false) scene
  | cons f fs ih =>
    have hsection := yields_playSection stage r first f scene
    rw [playFiles_cons, attempts, started]
    cases hattempt : (attempt stage r scene.world f).1 with
    | error failure =>
      rw [hattempt] at hsection
      exact hsection.bind_error
    | ok o =>
      rw [hattempt] at hsection
      refine hsection.bind fun out => ?_
      by_cases hbreaks : breaksOff policy o = true
      · have hstops : stops policy (.ok o) = true := hbreaks
        rw [if_pos hbreaks, if_pos hstops]
        have hlast : ((collect [.ok o]).map fun outcomes =>
            (outcomes, outcomes.any (breaksOff policy))) = .ok ([o], true) := by
          simp [collect, Except.map, hbreaks]
        rw [hlast]
        exact .pure ([o], true) _
      · have hstops : ¬ stops policy (.ok o) = true := hbreaks
        rw [if_neg hbreaks, if_neg hstops, collect, List.length_cons, List.take_succ_cons]
        have hrest := ih false ⟨(attempt stage r scene.world f).2, out⟩
        cases hcollect : collect (started policy
            (attempts stage r (attempt stage r scene.world f).2 fs)) with
        | error failure =>
          rw [hcollect] at hrest
          exact hrest.bind_error
        | ok outcomes =>
          rw [hcollect] at hrest
          refine hrest.bind fun out => ?_
          have hany : (o :: outcomes).any (breaksOff policy) =
              outcomes.any (breaksOff policy) := by
            rw [List.any_cons, Bool.eq_false_iff.mpr hbreaks, Bool.false_or]
          rw [Except.map, Except.map, hany]
          exact .pure (o :: outcomes, outcomes.any (breaksOff policy)) _

/-- What a run over so many test cases makes of the outcomes of those that it starts. -/
def batchOf (policy : UnterminatedPolicy) (total : Nat) (outcomes : List Outcome) : BatchOutcome :=
  { outcomes, skipped := total - outcomes.length, aborted := outcomes.any (breaksOff policy) }

theorem yields_playAll (terminal : Terminal) (policy : UnterminatedPolicy) (fs : List TestFile)
    (scene : Scene World) :
    Yields (playAll stage terminal r policy fs) scene
      ((collect (started policy (attempts stage r scene.world fs))).map (batchOf policy fs.length))
      (worldAfter stage r scene.world
        (fs.take (started policy (attempts stage r scene.world fs)).length)) := by
  have hfiles := yields_playFiles stage r policy true fs scene
  cases hcollect : collect (started policy (attempts stage r scene.world fs)) with
  | error failure =>
    rw [hcollect] at hfiles
    exact hfiles.bind_error
  | ok outcomes =>
    rw [hcollect] at hfiles
    refine hfiles.bind fun out => (yields_write _ _).bind fun out => ?_
    exact .pure (batchOf policy fs.length outcomes) _

end Parts

section Play

variable (stage : Stage World) (terminal : Terminal) {c : Config}
variable {list : World → Except FileError (List TestFile)} {fs : List TestFile} {r : Runner}
variable {scene : Scene World}

theorem play_apply (c : Config) (scene : Scene World) :
    play stage terminal c list scene =
      match c.runner with
      | .error cause => (.error (.invalid cause), scene)
      | .ok r =>
        match list scene.world with
        | .error cause => (.error (.notListed cause), scene)
        | .ok [] => (.error (.noTestcases c.inputDir c.suffix), scene)
        | .ok fs => playAll stage terminal r c.unterminatedOutput fs scene := by
  rw [play]
  cases c.runner with
  | error cause => rfl
  | ok r =>
    show (match list scene.world with
      | .error cause => _
      | .ok [] => _
      | .ok fs => _ : Act World BatchOutcome) scene = _
    cases list scene.world with
    | error cause => rfl
    | ok fs => cases fs <;> rfl

/-- A run plays the test cases that are listed, if its configuration is valid and there are any. -/
theorem play_eq_playAll (hr : c.runner = .ok r) (hlist : list scene.world = .ok fs)
    (hne : fs ≠ []) :
    play stage terminal c list scene =
      playAll stage terminal r c.unterminatedOutput fs scene := by
  rw [play_apply, hr, hlist]
  cases fs with
  | nil => exact absurd rfl hne
  | cons f fs => rfl

/-- A run that gives something back has played the test cases that are listed. -/
theorem exists_of_play_eq_ok {b : BatchOutcome}
    (h : (play stage terminal c list scene).1 = .ok b) :
    ∃ r fs, c.runner = .ok r ∧ list scene.world = .ok fs ∧
      play stage terminal c list scene =
        playAll stage terminal r c.unterminatedOutput fs scene := by
  rw [play_apply] at h ⊢
  split at h
  · cases h
  · next r hr =>
    split at h
    · cases h
    · cases h
    · next fs _ hlist =>
      rw [hr, hlist]
      cases fs with
      | nil => contradiction
      | cons f fs => exact ⟨r, f :: fs, rfl, rfl, rfl⟩

end Play

/-! ### What a run does not depend on -/

section Agrees

variable {stage stage' : Stage World}

theorem run_congr {w : World} {r : Runner} {t : Testcase} (echo : Sink)
    (h : ∀ k, r.comparator? = some k → stage'.perform w k r t = stage.perform w k r t) :
    stage'.run w r t echo = stage.run w r t echo := by
  cases hk : r.comparator? with
  | none => rw [Stage.run, Stage.run, hk]
  | some k =>
    by_cases hcommand : r.command = []
    · rw [Stage.run, Stage.run, hk, hcommand]
    · rw [Stage.run_of_comparator? hk hcommand, Stage.run_of_comparator? hk hcommand, h k hk]

/-- On these test cases the two stages are the same: they load them alike, and run programs
against them alike. -/
def AgreesOn (stage stage' : Stage World) (fs : List TestFile) : Prop :=
  ∀ f ∈ fs, ∀ w, stage'.load w f = stage.load w f ∧
    ∀ t, stage.load w f = .ok t → ∀ r k, r.comparator? = some k →
      stage'.perform w k r t = stage.perform w k r t

variable (r : Runner) {f : TestFile} {fs : List TestFile}

theorem playFile_congr (h : AgreesOn stage stage' (f :: fs)) :
    playFile stage' r f = playFile stage r f := by
  funext scene
  obtain ⟨hload, hperform⟩ := h f List.mem_cons_self scene.world
  rw [playFile_apply, playFile_apply, hload]
  cases hloaded : stage.load scene.world f with
  | error cause => rfl
  | ok t =>
    have hrun := run_congr scene.out (hperform t hloaded r)
    dsimp only
    rw [playLoaded_apply, playLoaded_apply, hrun]

theorem playSection_congr (first : Bool) (h : AgreesOn stage stage' (f :: fs)) :
    playSection stage' r first f = playSection stage r first f := by
  rw [playSection, playSection, playFile_congr r h]

theorem AgreesOn.tail (h : AgreesOn stage stage' (f :: fs)) : AgreesOn stage stage' fs :=
  fun g hg => h g (List.mem_cons_of_mem f hg)

/-- The loop over the test cases depends on those that it starts, and on no others. -/
theorem playFiles_congr (policy : UnterminatedPolicy) (first : Bool) {scene : Scene World}
    (hroom : scene.out.room = none)
    (h : AgreesOn stage stage'
      (fs.take (started policy (attempts stage r scene.world fs)).length)) :
    playFiles stage' r policy first fs scene = playFiles stage r policy first fs scene := by
  induction fs generalizing first scene with
  | nil => rfl
  | cons f fs ih =>
    obtain ⟨out, hout, hsection⟩ :=
      (yields_playSection stage r first f scene).of_room_eq_none hroom
    rw [attempts, started] at h
    -- Whether or not it is the last, the first test case is started.
    have hfirst : ∃ later, AgreesOn stage stage' (f :: later) := by
      split at h
      · exact ⟨_, h⟩
      · exact ⟨_, h⟩
    obtain ⟨later, hfirst⟩ := hfirst
    rw [playFiles_cons, playFiles_cons, playSection_congr r first hfirst, bind_apply, bind_apply,
      hsection]
    cases hattempt : (attempt stage r scene.world f).1 with
    | error failure => rfl
    | ok o =>
      dsimp only
      by_cases hbreaks : breaksOff policy o = true
      · rw [if_pos hbreaks, if_pos hbreaks]
      · have hstops : ¬ stops policy (.ok o) = true := hbreaks
        rw [hattempt, if_neg hstops, List.length_cons, List.take_succ_cons] at h
        rw [if_neg hbreaks, if_neg hbreaks, bind_apply, bind_apply, ih false hout h.tail]

variable (terminal : Terminal) {c : Config} {list : World → Except FileError (List TestFile)}

theorem play_congr {r : Runner} {scene : Scene World} (hroom : scene.out.room = none)
    (hr : c.runner = .ok r) (hlist : list scene.world = .ok fs)
    (h : AgreesOn stage stage'
      (fs.take (started c.unterminatedOutput (attempts stage r scene.world fs)).length)) :
    play stage' terminal c list scene = play stage terminal c list scene := by
  rw [play_apply, play_apply, hr, hlist]
  cases fs with
  | nil => rfl
  | cons f fs =>
    dsimp only
    rw [playAll, playAll, bind_apply, bind_apply,
      playFiles_congr r c.unterminatedOutput true hroom h]

end Agrees

/-! ### What a run does -/

/-- What the numbers and flags of a run over `total` test cases say together. -/
structure Accounts (policy : UnterminatedPolicy) (total : Nat) (b : BatchOutcome) : Prop where
  total : b.outcomes.length + b.skipped = total
  aborted_of_skipped : 0 < b.skipped → b.aborted = true
  aborted_iff : b.aborted = true ↔ ∃ o ∈ b.outcomes, breaksOff policy o = true
  last_of_aborted : b.aborted = true → ∃ before last, b.outcomes = before ++ [last] ∧
    breaksOff policy last = true ∧ ∀ o ∈ before, breaksOff policy o = false

namespace Accounts

variable {total : Nat} {b : BatchOutcome}

theorem of_started {policy : UnterminatedPolicy} {xs : List (Except Failure Outcome)}
    {outcomes : List Outcome} (h : outcomes.map .ok = started policy xs) :
    Accounts policy xs.length (batchOf policy xs.length outcomes) := by
  have hle : outcomes.length ≤ xs.length := by
    rw [← List.length_map Except.ok, h]
    exact (started_prefix_all policy xs).length_le
  refine ⟨Nat.add_sub_cancel' hle, fun hskipped => ?_, List.any_eq_true, fun haborted => ?_⟩
  · rcases outcomes_of_started policy h with ⟨hall, -⟩ | ⟨before, last, rfl, -, hlast⟩
    · rw [batchOf, hall, Nat.sub_self] at hskipped
      cases hskipped
    · exact List.any_eq_true.mpr ⟨last, by simp, hlast⟩
  · rcases outcomes_of_started policy h with ⟨-, hnone⟩ | ⟨before, last, rfl, hbefore, hlast⟩
    · obtain ⟨o, ho, hbreaks⟩ := List.any_eq_true.mp haborted
      rw [hnone o ho] at hbreaks
      cases hbreaks
    · exact ⟨before, last, rfl, hlast, hbefore⟩

/-- If output that ends inside a line is to break off a run, it does, and only as the last. -/
theorem abortBatch (h : Accounts .abortBatch total b) :
    (b.aborted = true ↔ ∃ o ∈ b.outcomes, o.verdict.reason? = some .unterminatedOutput) ∧
      (b.aborted = true → ∃ before last, b.outcomes = before ++ [last] ∧
        last.verdict.reason? = some .unterminatedOutput ∧
        ∀ o ∈ before, o.verdict.reason? ≠ some .unterminatedOutput) := by
  constructor
  · rw [h.aborted_iff]
    simp only [breaksOff_abortBatch_iff]
  · intro haborted
    obtain ⟨before, last, houtcomes, hlast, hbefore⟩ := h.last_of_aborted haborted
    refine ⟨before, last, houtcomes, breaksOff_abortBatch_iff.mp hlast, fun o ho hreason => ?_⟩
    have hgoes := hbefore o ho
    rw [breaksOff_abortBatch_iff.mpr hreason] at hgoes
    cases hgoes

/-- If only its own test is to fail, nothing breaks off a run. -/
theorem failCase (h : Accounts .failCase total b) : b.aborted = false ∧ b.skipped = 0 := by
  have hgoes : ¬ b.aborted = true := by
    intro haborted
    obtain ⟨o, -, hbreaks⟩ := h.aborted_iff.mp haborted
    rw [breaksOff_failCase] at hbreaks
    cases hbreaks
  refine ⟨Bool.eq_false_iff.mpr hgoes, ?_⟩
  by_contra hskipped
  exact hgoes (h.aborted_of_skipped (Nat.pos_of_ne_zero hskipped))

end Accounts

/-- On any sink, what a run gives back accounts for the test cases that are listed. -/
theorem accounts_of_play {stage : Stage World} {terminal : Terminal} {c : Config}
    {list : World → Except FileError (List TestFile)} {scene : Scene World} {b : BatchOutcome}
    (h : (play stage terminal c list scene).1 = .ok b) :
    ∃ r fs, c.runner = .ok r ∧ list scene.world = .ok fs ∧
      b.outcomes.map .ok = started c.unterminatedOutput (attempts stage r scene.world fs) ∧
      Accounts c.unterminatedOutput fs.length b := by
  obtain ⟨r, fs, hr, hlist, hplay⟩ := exists_of_play_eq_ok stage terminal h
  rw [hplay] at h
  have hresult := (yields_playAll stage r terminal c.unterminatedOutput fs scene).of_ok h
  cases hcollect : collect (started c.unterminatedOutput (attempts stage r scene.world fs)) with
  | error failure =>
    rw [hcollect] at hresult
    cases hresult
  | ok outcomes =>
    have hstarted := collect_eq_ok_iff.mp hcollect
    have haccounts := Accounts.of_started hstarted
    rw [length_attempts] at haccounts
    rw [hcollect] at hresult
    cases hresult
    exact ⟨r, fs, hr, hlist, hstarted, haccounts⟩

/-- **A run goes on until it is stopped.** Take a configuration that is valid and asks for some test
cases, and a sink without a limit. The results are those of the first test cases, up to and with the
first that stops the run; these are started, each once and in this order, as the world afterwards
shows, and the run does not depend on any other.

The run gives something back if and only if there is no failure among the results. It then has the
outcomes of all that were started, and the rest are skipped. If output that ends inside a line is to
break off the run, the run is broken off if and only if one of the outcomes is such output, and that
is the last one and no other; otherwise nothing breaks it off and no test is skipped. -/
theorem play_runs_until_stopped (stage : Stage World) (terminal : Terminal) {c : Config}
    {list : World → Except FileError (List TestFile)} {scene : Scene World} {fs : List TestFile}
    (hroom : scene.out.room = none) (hvalid : c.validate = .ok ())
    (hlist : list scene.world = .ok fs) (hne : fs ≠ []) :
    ∃ r, c.runner = .ok r ∧
      let results := started c.unterminatedOutput (attempts stage r scene.world fs)
      let played := play stage terminal c list scene
      results ≠ [] ∧
      results = attempts stage r scene.world (fs.take results.length) ∧
      played.2.world = worldAfter stage r scene.world (fs.take results.length) ∧
      (∀ stage', AgreesOn stage stage' (fs.take results.length) →
        play stage' terminal c list scene = played) ∧
      ((∃ b, played.1 = .ok b) ↔ ∀ x ∈ results, ∃ o, x = .ok o) ∧
      (∀ failure, played.1 = .error failure →
        ∃ before : List Outcome, results = before.map .ok ++ [.error failure]) ∧
      (∀ b, played.1 = .ok b →
        b.outcomes.map .ok = results ∧
        b.outcomes.length + b.skipped = fs.length ∧
        (0 < b.skipped → b.aborted = true) ∧
        (c.unterminatedOutput = .abortBatch →
          (b.aborted = true ↔
            ∃ o ∈ b.outcomes, o.verdict.reason? = some .unterminatedOutput) ∧
          (b.aborted = true → ∃ before last, b.outcomes = before ++ [last] ∧
            last.verdict.reason? = some .unterminatedOutput ∧
            ∀ o ∈ before, o.verdict.reason? ≠ some .unterminatedOutput)) ∧
        (c.unterminatedOutput = .failCase → b.aborted = false ∧ b.skipped = 0)) := by
  obtain ⟨r, hr⟩ := Config.runner_ok_iff.mpr hvalid
  refine ⟨r, hr, ?_⟩
  intro results played
  have hprefix : results <+: attempts stage r scene.world fs := started_prefix_all _ _
  obtain ⟨out, -, hplayed⟩ :=
    (yields_playAll stage r terminal c.unterminatedOutput fs scene).of_room_eq_none hroom
  rw [← play_eq_playAll stage terminal hr hlist hne] at hplayed
  have hresult : played.1 = (collect results).map (batchOf c.unterminatedOutput fs.length) :=
    congrArg Prod.fst hplayed
  refine ⟨?_, ?_, congrArg (·.2.world) hplayed, ?_, ?_, fun failure hfailure => ?_, fun b hb => ?_⟩
  · -- There is a first test case, and it is started whatever comes of it.
    refine started_ne_nil _ (List.ne_nil_of_length_pos ?_)
    rw [length_attempts]
    exact List.length_pos_iff.mpr hne
  · rw [attempts_take]
    exact List.prefix_iff_eq_take.mp hprefix
  · intro stage' hagrees
    exact play_congr terminal hroom hr hlist hagrees
  · rw [hresult, ← collect_ok_iff]
    cases collect results <;> simp [Except.map]
  · cases hcollect : collect results with
    | ok outcomes =>
      rw [hresult, hcollect] at hfailure
      cases hfailure
    | error cause =>
      rw [hresult, hcollect] at hfailure
      cases hfailure
      exact started_of_collect_eq_error _ hcollect
  · obtain ⟨r', fs', hr', hlist', hstarted, haccounts⟩ := accounts_of_play hb
    cases hr.symm.trans hr'
    cases hlist.symm.trans hlist'
    refine ⟨hstarted, haccounts.total, haccounts.aborted_of_skipped, ?_, ?_⟩
    · intro hpolicy
      rw [hpolicy] at haccounts
      exact haccounts.abortBatch
    · intro hpolicy
      rw [hpolicy] at haccounts
      exact haccounts.failCase

/-- Three test cases, and the output of the second ends inside a line. The world counts how many
programs were run. -/
theorem play_runs_until_stopped_by_second_of_three :
    let file (name : String) : TestFile := ⟨name, .ofString name, .ofString name⟩
    let stage : Stage Nat := {
      load := fun _ f => .ok ⟨f.name, [], []⟩
      perform := fun w _ _ _ =>
        (if w = 1 then .played [.output [97], .outputEnd] ⟨0⟩ fun _ => rfl
          else .played [.outputEnd, .errorEnd] ⟨0⟩ fun _ => rfl,
          w + 1) }
    let c : Config := {
      stepDelay := .ofInt 0
      warmupDelay := .ofInt 0
      limits := {}
      suffix := "in"
      inputDir := .ofString "."
      outputDir := .ofString "."
      command := ["cat"] }
    let fs := [file "a", file "b", file "c"]
    let played := play stage {} c (fun _ => .ok fs) ⟨0, {}⟩
    c.validate = .ok () ∧ fs ≠ [] ∧
      ∃ b, played.1 = .ok b ∧ b.outcomes.length = 2 ∧ b.skipped = 1 ∧ b.aborted = true ∧
        played.2.world = 2 := by
  intro file stage c fs played
  have hvalid : c.validate = .ok () := by decide +kernel
  have hne : fs ≠ [] := List.cons_ne_nil _ _
  obtain ⟨r, hr, -, -, hworld, -, hok, -, hbatch⟩ :=
    @play_runs_until_stopped Nat stage {} c (fun _ => .ok fs) ⟨0, {}⟩ fs rfl hvalid rfl hne
  have hrunner : c.runner = .ok ⟨["cat"], ⟨⟨0⟩, ⟨0⟩⟩, {}, none⟩ := by decide +kernel
  cases hr.symm.trans hrunner
  -- No test case fails to load or to run.
  obtain ⟨b, hb⟩ := hok.mpr (collect_ok_iff.mp ⟨_, rfl⟩)
  obtain ⟨houtcomes, htotal, haborted, -⟩ := hbatch b hb
  have hlength : b.outcomes.length = 2 := by
    rw [← List.length_map, houtcomes]
    decide
  rw [hlength] at htotal
  have hskipped : b.skipped = 1 := Nat.add_left_cancel htotal
  refine ⟨hvalid, hne, b, hb, hlength, hskipped, haborted (by rw [hskipped]; exact Nat.one_pos), ?_⟩
  rw [hworld]
  decide

end Batch

end Rehearsal
