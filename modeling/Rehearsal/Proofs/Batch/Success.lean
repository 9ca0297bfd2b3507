import Rehearsal.Proofs.Batch
import Rehearsal.Proofs.CommandLine.Execution

/-!
# What says that all tests have passed

Four things do: the outcome of a run (`BatchOutcome.allPassed`), the last line that it writes, its
report, and the exit status. Each has its own way to find out. The outcome asks whether the run was
broken off, the last line compares a count with the number of all tests, the report lists what it
knows, and the exit status trusts the outcome.

They agree because a run is only broken off by a test that has failed, and only then skips tests
(`Batch.Accounts`). `Batch.Accounts.allPassed_iff` says what follows from that for a run as a whole,
and the sections say it of the last line, the report and the exit status. The main statement is
`Batch.success_signals_agree`.
-/

namespace Rehearsal

theorem Outcome.passed_iff {o : Outcome} : o.passed = true ↔ o.verdict = .pass := by
  rw [Outcome.passed]
  cases o.verdict <;> simp [Verdict.isPass]

theorem Outcome.countPassed_eq_length_iff {outcomes : List Outcome} :
    Outcome.countPassed outcomes = outcomes.length ↔ ∀ o ∈ outcomes, o.verdict = .pass := by
  simp only [Outcome.countPassed, List.countP_eq_length, passed_iff]

theorem BatchOutcome.allPassed_eq_true_iff {b : BatchOutcome} :
    b.allPassed = true ↔ b.aborted = false ∧ ∀ o ∈ b.outcomes, o.verdict = .pass := by
  simp only [allPassed, Bool.and_eq_true, Bool.not_eq_true', List.all_eq_true, Outcome.passed_iff]

namespace Batch

namespace Accounts

variable {policy : UnterminatedPolicy} {total : Nat} {b : BatchOutcome}

theorem aborted_eq_false (h : Accounts policy total b)
    (hpass : ∀ o ∈ b.outcomes, o.verdict = .pass) : b.aborted = false := by
  rw [← Bool.not_eq_true]
  intro haborted
  obtain ⟨o, ho, hbreaks⟩ := h.aborted_iff.mp haborted
  rw [breaksOff, hpass o ho] at hbreaks
  cases hbreaks

theorem skipped_eq_zero (h : Accounts policy total b) (haborted : b.aborted = false) :
    b.skipped = 0 := by
  by_contra hskipped
  rw [h.aborted_of_skipped (Nat.pos_of_ne_zero hskipped)] at haborted
  cases haborted

/-- All tests have passed if and only if none was skipped and every outcome is a pass. -/
theorem allPassed_iff (h : Accounts policy total b) :
    b.allPassed = true ↔ b.skipped = 0 ∧ ∀ o ∈ b.outcomes, o.verdict = .pass := by
  rw [BatchOutcome.allPassed_eq_true_iff]
  constructor
  · rintro ⟨haborted, hpass⟩
    exact ⟨h.skipped_eq_zero haborted, hpass⟩
  · rintro ⟨-, hpass⟩
    exact ⟨h.aborted_eq_false hpass, hpass⟩

/-- So they have if and only if as many have passed as there are tests, skipped or not. -/
theorem allPassed_iff_countPassed (h : Accounts policy total b) :
    b.allPassed = true ↔
      Outcome.countPassed b.outcomes = b.outcomes.length + b.skipped := by
  rw [h.allPassed_iff, ← Outcome.countPassed_eq_length_iff]
  have hle : Outcome.countPassed b.outcomes ≤ b.outcomes.length := List.countP_le_length
  omega

end Accounts

end Batch

/-! ### The last line -/

namespace Bytes

theorem ofString_append (a b : String) : ofString (a ++ b) = ofString a ++ ofString b := by
  rw [ofString, String.toList_append, ofChars_append, ofString, ofString]

theorem getLast?_ofString_append (a : String) {b : String} {last : UInt8}
    (h : (ofString b).getLast? = some last) : (ofString (a ++ b)).getLast? = some last := by
  rw [ofString_append, List.getLast?_append, h, Option.some_or]

/-- If one byte string ends with another, and both with the same bytes, then what stands before
these ends in the same byte. -/
theorem getLast?_eq_of_suffix {a b ending : Bytes} (hne : b ≠ [])
    (h : b ++ ending <:+ a ++ ending) : b.getLast? = a.getLast? := by
  obtain ⟨rest, hrest⟩ := h
  rw [← List.append_assoc] at hrest
  rw [← List.append_cancel_right hrest, List.getLast?_append, List.getLast?_eq_some_getLast hne,
    Option.some_or]

end Bytes

namespace Terminal

open Bytes

variable (t : Terminal)

/-- The last line of a run over so many tests if all of them have passed. -/
def passedLine (count : Nat) : String :=
  "----- " ++ t.paint { foreground := some .green }
    ("All " ++ toString count ++ " tests passed ✨") ++ " -----\n"

/-- Painted text ends as the text does, or with the end of an escape sequence. -/
theorem getLast?_paint (p : Paint) {text : String} {last : UInt8}
    (h : (ofString text).getLast? = some last) :
    (ofString (t.paint p text)).getLast? = some last ∨
      (ofString (t.paint p text)).getLast? = some 109 := by
  rw [paint]
  split
  · exact .inl h
  · exact .inr (getLast?_ofString_append _ (by decide))

/-- The text that says that all have passed ends in a sparkle or an escape sequence, not in a
closing parenthesis. -/
theorem getLast?_passedText (count : Nat) :
    (ofString ("----- " ++ t.paint { foreground := some .green }
      ("All " ++ toString count ++ " tests passed ✨"))).getLast? ≠ some 41 := by
  have htext : (ofString ("All " ++ toString count ++ " tests passed ✨")).getLast? = some 168 :=
    getLast?_ofString_append _ (by decide)
  rcases t.getLast?_paint { foreground := some .green } htext with hlast | hlast
  · rw [getLast?_ofString_append _ hlast]
    decide
  · rw [getLast?_ofString_append _ hlast]
    decide

variable {outcomes : List Outcome} {skipped : Nat}

theorem summary_of_all_passed (h : Outcome.countPassed outcomes = outcomes.length + skipped) :
    t.summary outcomes skipped = t.passedLine (outcomes.length + skipped) := by
  rw [summary, summaryText, passedLine]
  dsimp only
  rw [if_pos h]

/-- The text that counts failures ends in a closing parenthesis. -/
theorem getLast?_summaryText (h : Outcome.countPassed outcomes ≠ outcomes.length + skipped) :
    (ofString ("----- " ++ t.summaryText outcomes skipped)).getLast? = some 41 := by
  refine getLast?_ofString_append _ ?_
  rw [summaryText]
  dsimp only
  rw [if_neg h]
  exact getLast?_ofString_append _ (by decide)

/-- Whatever was written before it, a summary is the line that says that all have passed if and
only if they have. -/
theorem passedLine_suffix_iff (before : Bytes) :
    ofString (t.passedLine (outcomes.length + skipped)) <:+
        before ++ ofString (t.summary outcomes skipped) ↔
      Outcome.countPassed outcomes = outcomes.length + skipped := by
  constructor
  · intro h
    by_contra hfailed
    -- Both lines close with the same dashes, so it is the byte before these that tells them apart.
    rw [passedLine, summary, ofString_append _ " -----\n", ofString_append _ " -----\n",
      ← List.append_assoc] at h
    have hne := t.getLast?_passedText (outcomes.length + skipped)
    rw [getLast?_eq_of_suffix ?_ h, List.getLast?_append, t.getLast?_summaryText hfailed] at hne
    · exact hne rfl
    · rw [ofString_append]
      exact List.append_ne_nil_of_left_ne_nil (by decide) _
  · intro h
    rw [t.summary_of_all_passed h]
    exact List.suffix_append _ _

end Terminal

namespace Batch

variable {World : Type}

theorem contents_write_of_ok {data : Bytes} {scene : Scene World} {u : Unit}
    (h : (write data scene).1 = .ok u) :
    (write data scene).2.out.contents = scene.out.contents ++ data := by
  rw [write_apply] at h ⊢
  cases hwrite : scene.out.write data with
  | error out =>
    rw [hwrite] at h
    cases h
  | ok out => exact Sink.contents_write hwrite

/-- The last that a run writes is what closes it. -/
theorem contents_playAll {stage : Stage World} {r : Runner} {terminal : Terminal}
    {policy : UnterminatedPolicy} {fs : List TestFile} {scene : Scene World} {b : BatchOutcome}
    (h : (playAll stage terminal r policy fs scene).1 = .ok b) :
    ∃ before, (playAll stage terminal r policy fs scene).2.out.contents =
      before ++ closing terminal b := by
  rw [playAll] at h ⊢
  obtain ⟨⟨outcomes, aborted⟩, -, hfiles⟩ := bind_of_ok h
  rw [hfiles] at h ⊢
  dsimp only at h ⊢
  obtain ⟨u, hwrite, hclosing⟩ := bind_of_ok h
  rw [hclosing] at h ⊢
  cases h
  exact ⟨_, contents_write_of_ok hwrite⟩

/-- So the last line is a summary, and it says that all tests have passed if and only if they
have. -/
theorem passedLine_suffix_contents_iff {stage : Stage World} {r : Runner} {terminal : Terminal}
    {policy : UnterminatedPolicy} {fs : List TestFile} {scene : Scene World} {b : BatchOutcome}
    (h : (playAll stage terminal r policy fs scene).1 = .ok b)
    (haccounts : Accounts policy fs.length b) :
    Bytes.ofString (terminal.passedLine fs.length) <:+
        (playAll stage terminal r policy fs scene).2.out.contents ↔ b.allPassed = true := by
  obtain ⟨before, hcontents⟩ := contents_playAll h
  rw [hcontents, closing, ← List.append_assoc, ← haccounts.total,
    terminal.passedLine_suffix_iff, haccounts.allPassed_iff_countPassed]

end Batch

/-! ### The report -/

/-- The value of a field of an object. -/
def Json.field? (name : String) : Json → Option Json
  | .object fields => fields.lookup name
  | _ => none

namespace BatchOutcome

/-- Does this report say that nothing was broken off or skipped and that every test has passed? -/
def ReportsSuccess (report : Json) : Prop :=
  report.field? "aborted" = some (.bool false) ∧ report.field? "skipped" = some (.integer 0) ∧
    ∃ records, report.field? "outcomes" = some (.array records) ∧
      ∀ record ∈ records, record.field? "passed" = some (.bool true)

theorem field?_aborted (b : BatchOutcome) :
    b.toJson.field? "aborted" = some (.bool b.aborted) := rfl

theorem field?_skipped (b : BatchOutcome) :
    b.toJson.field? "skipped" = some (.integer b.skipped) := rfl

theorem field?_outcomes (b : BatchOutcome) :
    b.toJson.field? "outcomes" = some (.array (b.outcomes.map record)) := rfl

theorem field?_passed (o : Outcome) : (record o).field? "passed" = some (.bool o.passed) := rfl

theorem reportsSuccess_toJson_iff {b : BatchOutcome} :
    ReportsSuccess b.toJson ↔
      b.aborted = false ∧ b.skipped = 0 ∧ ∀ o ∈ b.outcomes, o.verdict = .pass := by
  simp only [ReportsSuccess, field?_aborted, field?_skipped, field?_outcomes, Option.some.injEq,
    Json.bool.injEq, Json.integer.injEq, Json.array.injEq, Int.natCast_eq_zero, exists_eq_left',
    List.forall_mem_map, field?_passed, Outcome.passed_iff]

end BatchOutcome

/-! ### The exit status -/

namespace CommandLine

/-- The test cases that a configuration asks for on a host. -/
def listing (c : Config) (h : Host) : Except FileError (List TestFile) :=
  Finder.enumerate { suffix := c.suffix, outputDir := c.outputDir } h.files h.directory c.inputDir

/-- What a command line asks for is a run that comes to this outcome, and the report of it, if one
is asked for, is written. -/
def RunsTo (stage : Stage Host) (terminal : Terminal) (options : Options) (command : List String)
    (start : Batch.Scene Host) (b : BatchOutcome) : Prop :=
  ∃ loaded,
    Config.load start.world.files start.world.directory start.world.environment options.config
      start.world.directoryPath = .ok loaded ∧
    let c := options.override command loaded
    let played := Batch.play stage terminal c (listing c) start
    played.1 = .ok b ∧
    ∀ path, options.reportJson = some path →
      (b.writeJson played.2.world.files played.2.world.directory path).2 = .ok ()

section RunAll

variable {stage : Stage Host} {terminal : Terminal} {options : Options} {command : List String}
variable {start : Batch.Scene Host}

/-- The end of a run over all tests: its report, if one is asked for, and its exit status. -/
def conclude (options : Options) (b : BatchOutcome) : Act Bool := do
  if let some path := options.reportJson then
    changeFiles .notReported fun h => b.writeJson h.files h.directory path
  return b.allPassed

theorem conclude_ok_iff {b : BatchOutcome} {scene : Batch.Scene Host} {passed : Bool} :
    (conclude options b scene).1 = .ok passed ↔
      (∀ path, options.reportJson = some path →
        (b.writeJson scene.world.files scene.world.directory path).2 = .ok ()) ∧
        passed = b.allPassed := by
  rw [conclude]
  cases options.reportJson with
  | none =>
    constructor
    · intro h
      cases h
      refine ⟨?_, rfl⟩
      rintro path ⟨⟩
    · rintro ⟨-, rfl⟩
      rfl
  | some path =>
    dsimp only
    rw [bind_ok_iff]
    constructor
    · rintro ⟨u, hwritten, hreturn⟩
      cases hreturn
      refine ⟨?_, rfl⟩
      rintro _ ⟨⟩
      exact changeFiles_ok_iff.mp hwritten
    · rintro ⟨hwritten, rfl⟩
      exact ⟨(), changeFiles_ok_iff.mpr (hwritten path rfl), rfl⟩

theorem runAll_apply :
    runAll stage terminal options command start =
      match Config.load start.world.files start.world.directory start.world.environment
        options.config start.world.directoryPath with
      | .error cause => (.error (.notConfigured cause), start)
      | .ok loaded =>
        (do
          let c := options.override command loaded
          let b ← play (Batch.play stage terminal c (listing c))
          conclude options b : Act Bool) start := by
  have hget : (get : Act (Batch.Scene Host)) start = (.ok start, start) := rfl
  rw [runAll, bind_apply, hget]
  dsimp only
  cases Config.load start.world.files start.world.directory start.world.environment
    options.config start.world.directoryPath with
  | error cause => rfl
  | ok loaded =>
    rw [orFail, pure_bind]
    rfl

/-- The exit status is that of an outcome if and only if that is what the run comes to. -/
theorem runAll_ok_iff {passed : Bool} :
    (runAll stage terminal options command start).1 = .ok passed ↔
      ∃ b, RunsTo stage terminal options command start b ∧ passed = b.allPassed := by
  rw [runAll_apply]
  constructor
  · intro h
    split at h
    · cases h
    · next loaded hload =>
      obtain ⟨b, hplay, hconclude⟩ := bind_ok_iff.mp h
      rw [play_snd] at hconclude
      obtain ⟨hreport, hpassed⟩ := conclude_ok_iff.mp hconclude
      exact ⟨b, ⟨loaded, hload, play_ok_iff.mp hplay, hreport⟩, hpassed⟩
  · rintro ⟨b, ⟨loaded, hload, hplay, hreport⟩, hpassed⟩
    rw [hload]
    refine bind_ok_iff.mpr ⟨b, play_ok_iff.mpr hplay, ?_⟩
    rw [play_snd]
    exact conclude_ok_iff.mpr ⟨hreport, hpassed⟩

theorem RunsTo.unique {b b' : BatchOutcome} (h : RunsTo stage terminal options command start b)
    (h' : RunsTo stage terminal options command start b') : b = b' := by
  obtain ⟨loaded, hload, hplay, -⟩ := h
  obtain ⟨loaded', hload', hplay', -⟩ := h'
  cases hload.symm.trans hload'
  exact Except.ok.inj (hplay.symm.trans hplay')

end RunAll

end CommandLine

namespace Batch

/-- **The signals of success agree.** If a run gives back an outcome, it asked for some tests, and
these say the same: the outcome, that all of them have passed; that each of them, in order, was run
and came to a pass; the last line that is written, that so many tests have passed; and the report,
that nothing was broken off or skipped and that every test has passed. And if a command line asks
for a run that comes to this outcome, on a stage of any kind, and for no report that cannot be
written, then its exit status is success if and only if all have passed. -/
theorem success_signals_agree {World : Type} {stage : Stage World} {terminal : Terminal}
    {c : Config} {list : World → Except FileError (List TestFile)} {scene : Scene World}
    {b : BatchOutcome} (h : (play stage terminal c list scene).1 = .ok b) :
    ∃ r fs, c.runner = .ok r ∧ list scene.world = .ok fs ∧
      (b.allPassed = true ↔
        b.outcomes.map .ok = attempts stage r scene.world fs ∧
          ∀ o ∈ b.outcomes, o.verdict = .pass) ∧
      (b.allPassed = true ↔
        Bytes.ofString (terminal.passedLine fs.length) <:+
          (play stage terminal c list scene).2.out.contents) ∧
      (b.allPassed = true ↔ BatchOutcome.ReportsSuccess b.toJson) ∧
      (∀ (stage' : Stage Host) (terminal' : Terminal) (options : CommandLine.Options)
        (command : List String) (start : Scene Host),
        CommandLine.RunsTo stage' terminal' options command start b →
        ((CommandLine.execute stage' terminal' (.run options command) start).1 = .ok true ↔
          b.allPassed = true)) := by
  obtain ⟨r, fs, hr, hlist, hstarted, haccounts⟩ := accounts_of_play h
  refine ⟨r, fs, hr, hlist, ?_, ?_, ?_, ?_⟩
  · rw [haccounts.allPassed_iff]
    constructor
    · rintro ⟨hskipped, hpass⟩
      -- None was skipped, so those that were started are all.
      refine ⟨?_, hpass⟩
      rw [hstarted]
      refine (started_prefix_all _ _).eq_of_length ?_
      rw [← hstarted, List.length_map, length_attempts, ← haccounts.total, hskipped, Nat.add_zero]
    · rintro ⟨-, hpass⟩
      exact ⟨haccounts.skipped_eq_zero (haccounts.aborted_eq_false hpass), hpass⟩
  · obtain ⟨r', fs', hr', hlist', hplay⟩ := exists_of_play_eq_ok stage terminal h
    cases hr.symm.trans hr'
    cases hlist.symm.trans hlist'
    rw [hplay] at h ⊢
    exact (passedLine_suffix_contents_iff h haccounts).symm
  · rw [BatchOutcome.reportsSuccess_toJson_iff, haccounts.allPassed_iff]
    constructor
    · rintro ⟨hskipped, hpass⟩
      exact ⟨haccounts.aborted_eq_false hpass, hskipped, hpass⟩
    · rintro ⟨-, hskipped, hpass⟩
      exact ⟨hskipped, hpass⟩
  · intro stage' terminal' options command start hruns
    rw [CommandLine.execute, CommandLine.runAll_ok_iff]
    constructor
    · rintro ⟨b', hruns', hpassed⟩
      rw [hruns.unique hruns', hpassed]
    · intro hpassed
      exact ⟨b, hruns, hpassed.symm⟩

/-- Two tests in which nothing is to happen and nothing does. The configuration is in the
environment, but for the program, and a report is asked for. -/
theorem success_signals_agree_on_two_silent_tests :
    let files : FileTree := { entries := [
      ([.ofString "a.in"], .file []), ([.ofString "a.expected"], .file []),
      ([.ofString "b.in"], .file []), ([.ofString "b.expected"], .file [])] }
    let environment : List (String × String) := [("STEPPER_STEP_DELAY", "0"),
      ("STEPPER_WARMUP_DELAY", "0"), ("STEPPER_POST_CRASH_LINES", "15"),
      ("STEPPER_WRONG_LINES", "10"), ("STEPPER_INPUT_DIR", "."), ("STEPPER_OUTPUT_DIR", "."),
      ("STEPPER_SUFFIX", "in"), ("STEPPER_COMMAND", "")]
    let start : Scene Host := ⟨{ files, directory := [], environment }, {}⟩
    let stage : Stage Host := {
      load := fun h f => f.load h.files h.directory
      perform := fun h _ _ _ => (.played [.outputEnd, .errorEnd] ⟨0⟩ fun _ => rfl, h) }
    let c : Config := {
      stepDelay := .ofInt 0
      warmupDelay := .ofInt 0
      limits := {}
      suffix := "in"
      inputDir := .ofString "."
      outputDir := .ofString "."
      command := ["cat"] }
    let options : CommandLine.Options := { reportJson := some (.ofString "report.json") }
    let played := play stage {} c (CommandLine.listing c) start
    let b : BatchOutcome := ⟨[⟨"a", .pass, ⟨0⟩⟩, ⟨"b", .pass, ⟨0⟩⟩], 0, false⟩
    played.1 = .ok b ∧ b.allPassed = true ∧ BatchOutcome.ReportsSuccess b.toJson ∧
      Bytes.ofString "----- All 2 tests passed ✨ -----\n" <:+ played.2.out.contents ∧
      CommandLine.RunsTo stage {} options ["cat"] start b ∧
      (CommandLine.execute stage {} (.run options ["cat"]) start).1 = .ok true := by
  intro files environment start stage c options played b
  let fs : List TestFile := [⟨"a", .ofString "./a.in", .ofString "./a.expected"⟩,
    ⟨"b", .ofString "./b.in", .ofString "./b.expected"⟩]
  have hlist : CommandLine.listing c start.world = .ok fs := by
    have hentries : ∃ entries, files.list [] c.inputDir = .ok entries ∧
        (entries.filter (·.2 != .dir)).filterMap (fun e =>
          Finder.find? ⟨"in", .ofString "."⟩ (c.inputDir.join ⟨e.1⟩)) = fs :=
      ⟨_, rfl, by decide +kernel⟩
    obtain ⟨entries, hentries, hfound⟩ := hentries
    rw [CommandLine.listing, Finder.enumerate, hentries]
    refine congrArg Except.ok ((congrArg (List.mergeSort · _) hfound).trans ?_)
    simp [fs, List.mergeSort, List.cons_lt_cons_iff]
  have hrunner : c.runner = .ok ⟨["cat"], ⟨⟨0⟩, ⟨0⟩⟩, {}, none⟩ := by decide +kernel
  have hplay : played = playAll stage {} _ .abortBatch fs start :=
    play_eq_playAll stage {} hrunner hlist (List.cons_ne_nil _ _)
  have hplayed : played.1 = .ok b := by
    rw [hplay]
    decide +kernel
  have hpassed : b.allPassed = true := by decide
  have hload : Config.load files [] environment none start.world.directoryPath =
      .ok { c with command := [] } := by decide +kernel
  have hruns : CommandLine.RunsTo stage {} options ["cat"] start b := by
    refine ⟨_, hload, hplayed, ?_⟩
    rintro path ⟨⟩
    show (b.writeJson played.2.world.files played.2.world.directory _).2 = .ok ()
    rw [hplay]
    decide +kernel
  obtain ⟨r, fs', -, hlist', -, hline, hreport, hexit⟩ :=
    @success_signals_agree Host stage {} c (CommandLine.listing c) start b hplayed
  cases hlist.symm.trans hlist'
  have htext : Terminal.passedLine {} fs.length = "----- All 2 tests passed ✨ -----\n" := by
    decide +kernel
  rw [htext] at hline
  exact ⟨hplayed, hpassed, hreport.mp hpassed, hline.mp hpassed, hruns,
    (hexit stage {} options ["cat"] start hruns).mpr hpassed⟩

end Batch

end Rehearsal
