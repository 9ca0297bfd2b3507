import Rehearsal.CommandLine.Overrides
import Rehearsal.Proofs.CommandLine.Words

/-!
# The program under test on the command line

What follows the first two dashes is the program under test, word for word. The words before them
are read as if nothing followed (`readWords_program`), and none of the words after them is read as
anything else (`readWords_trailing`), so one program may stand in the place of another: the command
line is then understood as before, with the other program. The main statement is
`program_is_taken_verbatim`; it also says what of a configuration the words before the dashes can
change.
-/

namespace Rehearsal.CommandLine

/-! ### One program in the place of another -/

namespace Invocation

/-- The program under test, where a subcommand has one. -/
def command? : Invocation → Option (List String)
  | .init _ => none
  | .run _ command => some command
  | .step _ _ _ command => some command

/-- The same with another program. -/
def withCommand (command : List String) : Invocation → Invocation
  | .init dir => .init dir
  | .run options _ => .run options command
  | .step input expected options _ => .step input expected options command

end Invocation

/-- The same with another program. -/
def Request.withCommand (command : List String) (q : Request) : Request :=
  { q with invocation := q.invocation.withCommand command }

/-! ### Words after a subcommand -/

variable {g : Grammar} {r : Reading} {word : String} {words pre cmd cmd' : List String}

/-- After the two dashes every word belongs to the program. -/
theorem readWords_trailing (hg : g.takesCommand = true) (hr : r.trailing = true) :
    readWords g r cmd = r.settle.map fun next => { next with command := next.command ++ cmd } := by
  induction cmd generalizing r with
  | nil =>
    rw [readWords]
    cases r.settle <;> simp [Except.map]
  | cons word cmd ih =>
    have hword : r.takeWord g word =
        r.settle >>= fun next => .ok { next with command := next.command ++ [word] } := by
      rw [Reading.takeWord, if_pos hr, Reading.takeArgument, if_pos (by rw [hr, hg]; rfl)]
      rfl
    rw [readWords, hword]
    cases hsettle : r.settle with
    | error e => rfl
    | ok next =>
      show readWords g { next with command := next.command ++ [word] } cmd = _
      have htrailing : next.trailing = true := (Reading.trailing_of_settle hsettle).trans hr
      -- nothing has begun any more, so what is read next comes right behind this word
      have hnone : next.pending = none := Reading.pending_of_settle hsettle
      rw [ih (by exact htrailing), Reading.settle_of_pending (by exact hnone)]
      simp [Except.map]

/-- Before the two dashes nothing is known of the program. -/
theorem readWords_program (hg : g.takesCommand = true) (hwords : "--" ∉ words) :
    readWords g {} (words ++ "--" :: cmd) =
      (readWords g {} words).map fun front => { front with command := cmd, trailing := true } := by
  rw [readWords_append, readWords_eq]
  cases htake : Reading.takeWords g {} words with
  | error e => rfl
  | ok next =>
    obtain ⟨htrailing, hcommand⟩ := Reading.takeWords_of_no_dashes htake hwords rfl
    have hdashes : next.takeWord g "--" = .ok { next with trailing := true } := by
      rw [Reading.takeWord, htrailing]
      rfl
    show next.takeWord g "--" >>= (readWords g · cmd) = next.settle.map _
    rw [hdashes]
    show readWords g { next with trailing := true } cmd = _
    rw [readWords_trailing hg rfl, Reading.settle_trailing]
    cases hsettle : next.settle with
    | error e => rfl
    | ok front =>
      have hfront : front.command = [] := (Reading.command_of_settle hsettle).trans hcommand
      simp [Except.map, hfront]

theorem readWords_program_eq_ok_iff (hg : g.takesCommand = true) (hwords : "--" ∉ words) :
    readWords g {} (words ++ "--" :: cmd) = .ok r ↔
      ∃ front, readWords g {} words = .ok front ∧
        r = { front with command := cmd, trailing := true } := by
  rw [readWords_program hg hwords]
  constructor
  · intro h
    cases hfront : readWords g {} words with
    | error e => rw [hfront] at h; cases h
    | ok front =>
      rw [hfront] at h
      exact ⟨front, rfl, (Except.ok.inj h).symm⟩
  · rintro ⟨front, hfront, rfl⟩
    rw [hfront]
    rfl

/-- An option that has a value in the end was given by one of the words. -/
theorem given_of_readWords (h : readWords g {} words = .ok r) {opt : Opt}
    (hopt : r.options.has opt = true) : ∃ word ∈ words, opt.GivenBy word := by
  rw [readWords_eq] at h
  obtain ⟨next, htake, hsettle⟩ := bind_eq_ok_iff.mp h
  rcases Reading.mentions_of_takeWords htake (Reading.mentions_of_settle hsettle (.inl hopt)) with
    hnone | hgiven
  -- nothing was given before the first word
  · rcases hnone with hnone | ⟨value, hnone⟩
    · cases opt <;> cases hnone
    · cases hnone
  · exact hgiven

/-! ### The subcommand -/

namespace Invocation

variable {s : Subcommand} {i : Invocation}

/-- A reading is understood with one program if it is with another. -/
theorem ofReading_withCommand (h : ofReading s { r with command := cmd } = .ok i)
    (hi : i.command?.isSome) (hcmd' : cmd' ≠ []) :
    i.command? = some cmd ∧ ofReading s { r with command := cmd' } = .ok (i.withCommand cmd') := by
  obtain ⟨first, rest, rfl⟩ := List.exists_cons_of_ne_nil hcmd'
  cases s with
  | init => cases h; cases hi
  | run => cases h; exact ⟨rfl, rfl⟩
  | step =>
    rw [ofReading] at h
    split at h
    · cases h
    · next hargs _ =>
      cases h
      refine ⟨rfl, ?_⟩
      rw [ofReading]
      dsimp only at hargs ⊢
      rw [hargs]
      rfl
    · cases h

/-- Only what can be given a program asks for one. -/
theorem takesCommand_of_ofReading (h : ofReading s r = .ok i) (hi : i.command?.isSome) :
    s.grammar.takesCommand = true := by
  cases s with
  | init => cases h; cases hi
  | run => rfl
  | step => rfl

theorem options_of_ofReading {options : Options} (h : ofReading s r = .ok (.run options cmd)) :
    options = r.options := by
  cases s with
  | init => cases h
  | run => cases h; rfl
  | step =>
    rw [ofReading] at h
    split at h <;> cases h

end Invocation

variable {top : Reading} {s : Subcommand} {q : Request}

theorem readSubcommand_eq_ok_iff :
    readSubcommand top s words = .ok q ↔
      ∃ r i before, readWords s.grammar {} words = .ok r ∧ Invocation.ofReading s r = .ok i ∧
        top.settle = .ok before ∧
        q = ⟨(r.options.logLevel <|> before.options.logLevel).getD defaultLevel, i⟩ := by
  rw [readSubcommand]
  constructor
  · intro h
    obtain ⟨r, hr, h⟩ := bind_eq_ok_iff.mp h
    obtain ⟨i, hi, h⟩ := bind_eq_ok_iff.mp h
    obtain ⟨before, hbefore, h⟩ := bind_eq_ok_iff.mp h
    exact ⟨r, i, before, hr, hi, hbefore, (Except.ok.inj h).symm⟩
  · rintro ⟨r, i, before, hr, hi, hbefore, rfl⟩
    rw [hr]
    show Invocation.ofReading s r >>= _ = _
    rw [hi]
    show top.settle >>= _ = _
    rw [hbefore]
    rfl

theorem readSubcommand_withCommand (hwords : "--" ∉ words) (hcmd' : cmd' ≠ [])
    (h : readSubcommand top s (words ++ "--" :: cmd) = .ok q) (hq : q.invocation.command?.isSome) :
    q.invocation.command? = some cmd ∧
      readSubcommand top s (words ++ "--" :: cmd') = .ok (q.withCommand cmd') ∧
      ∀ options, q.invocation = .run options cmd →
        ∀ opt, options.has opt = true → ∃ word ∈ words, opt.GivenBy word := by
  obtain ⟨r, i, before, hread, hi, hbefore, rfl⟩ := readSubcommand_eq_ok_iff.mp h
  have hg := Invocation.takesCommand_of_ofReading hi hq
  obtain ⟨front, hfront, rfl⟩ := (readWords_program_eq_ok_iff hg hwords).mp hread
  obtain ⟨hcommand, hi'⟩ :=
    Invocation.ofReading_withCommand (r := { front with trailing := true }) hi hq hcmd'
  refine ⟨hcommand, ?_, ?_⟩
  · rw [readSubcommand_eq_ok_iff]
    exact ⟨_, _, before, (readWords_program_eq_ok_iff hg hwords).mpr ⟨front, hfront, rfl⟩, hi',
      hbefore, rfl⟩
  · rintro options rfl opt hopt
    rw [Invocation.options_of_ofReading hi] at hopt
    exact given_of_readWords hfront hopt

/-! ### The whole line -/

/-- No subcommand comes after the two dashes. -/
theorem readTop_trailing_ne_ok (hr : r.trailing = true) : readTop r words ≠ .ok q := by
  intro h
  cases words with
  | nil =>
    obtain ⟨_, -, h⟩ := bind_eq_ok_iff.mp h
    cases h
  | cons word words =>
    rw [readTop, if_pos (by rw [hr]; rfl)] at h
    obtain ⟨_, hword, -⟩ := bind_eq_ok_iff.mp h
    rw [Reading.takeWord, if_pos hr, Reading.takeArgument, if_neg (by simp [Grammar.top]),
      if_neg (by simp [Grammar.top])] at hword
    split at hword <;> cases hword

/-- The subcommand comes before the two dashes, whatever follows. -/
theorem exists_subcommand (hpre : "--" ∉ pre) (hr : r.trailing = false)
    (h : readTop r (pre ++ "--" :: cmd) = .ok q) :
    ∃ top s words, words ⊆ pre ∧
      ∀ rest, readTop r (pre ++ rest) = readSubcommand top s (words ++ rest) := by
  induction pre generalizing r with
  | nil =>
    have hdashes : readTop r ("--" :: cmd) = readTop { r with trailing := true } cmd := by
      have hword : r.takeWord .top "--" = .ok { r with trailing := true } := by
        rw [Reading.takeWord, hr]
        rfl
      rw [readTop, hword]
      split <;> rfl
    rw [List.nil_append, hdashes] at h
    exact absurd h (readTop_trailing_ne_ok rfl)
  | cons word pre ih =>
    rw [List.mem_cons, not_or] at hpre
    -- a word that names no subcommand is taken, and the subcommand is found behind it
    have hnext (htake : ∀ rest, readTop r (word :: pre ++ rest) =
        r.takeWord .top word >>= fun next => readTop next (pre ++ rest)) :
        ∃ top s words, words ⊆ word :: pre ∧
          ∀ rest, readTop r (word :: pre ++ rest) = readSubcommand top s (words ++ rest) := by
      rw [htake] at h
      obtain ⟨next, hword, h⟩ := bind_eq_ok_iff.mp h
      have hbefore := (Reading.takes_of_takeWord hword).before_dashes (Ne.symm hpre.1) hr
      obtain ⟨top, s, words, hwords, hrest⟩ := ih hpre.2 hbefore.1 h
      refine ⟨top, s, words, List.subset_cons_of_subset word hwords, fun rest => ?_⟩
      rw [htake, hword]
      exact hrest rest
    by_cases hvalue : (r.trailing || r.awaitsValue) = true
    · exact hnext fun rest => by rw [List.cons_append, readTop, if_pos hvalue]
    · by_cases hhelp : word = "help"
      · rw [List.cons_append, readTop, if_neg hvalue, if_pos hhelp] at h
        cases h
      · cases hname : Subcommand.ofName? word with
        | none =>
          exact hnext fun rest => by
            rw [List.cons_append, readTop, if_neg hvalue, if_neg hhelp, hname]
        | some s =>
          refine ⟨r, s, pre, List.subset_cons_self word pre, fun rest => ?_⟩
          rw [List.cons_append, readTop, if_neg hvalue, if_neg hhelp, hname]

/-- One configuration differs from another at most in its program and in what these options set. -/
structure ChangesOnly (given : Opt → Prop) (c c' : Config) : Prop where
  sourceFile : c'.sourceFile = c.sourceFile
  limits : c'.limits = c.limits
  stepDelay : ¬ given .stepDelay → c'.stepDelay = c.stepDelay
  warmupDelay : ¬ given .warmupDelay → c'.warmupDelay = c.warmupDelay
  timeLimit : ¬ given .timeLimit → c'.timeLimit = c.timeLimit
  suffix : ¬ given .suffix → c'.suffix = c.suffix
  inputDir : ¬ given .inputDir → c'.inputDir = c.inputDir
  outputDir : ¬ given .outputDir → c'.outputDir = c.outputDir
  unterminatedOutput : ¬ given .unterminatedOutput → c'.unterminatedOutput = c.unterminatedOutput

theorem eq_none_of_not_given {α : Type} {value : Option α} {given : Prop}
    (h : value.isSome = true → given) (hnot : ¬ given) : value = none := by
  cases value with
  | none => rfl
  | some a => exact absurd (h rfl) hnot

/-- An option that was not given leaves its field as it was loaded. -/
theorem Options.override_changesOnly {o : Options} {given : Opt → Prop}
    (h : ∀ opt, o.has opt = true → given opt) (c : Config) :
    ChangesOnly given c (o.override cmd c) :=
  { sourceFile := rfl
    limits := rfl
    stepDelay := fun hopt => by simp [override, eq_none_of_not_given (h .stepDelay) hopt]
    warmupDelay := fun hopt => by simp [override, eq_none_of_not_given (h .warmupDelay) hopt]
    timeLimit := fun hopt => by simp [override, eq_none_of_not_given (h .timeLimit) hopt]
    suffix := fun hopt => by simp [override, eq_none_of_not_given (h .suffix) hopt]
    inputDir := fun hopt => by simp [override, eq_none_of_not_given (h .inputDir) hopt]
    outputDir := fun hopt => by simp [override, eq_none_of_not_given (h .outputDir) hopt]
    unterminatedOutput := fun hopt => by
      simp [override, eq_none_of_not_given (h .unterminatedOutput) hopt] }

theorem Options.command_override {o : Options} {c : Config} (hcmd : cmd ≠ []) :
    (o.override cmd c).command = cmd := by
  rw [override]
  exact if_neg (by simpa using hcmd)

/-- What follows the two dashes is the program under test, whatever it looks like: any other
program may stand in its place, and nothing else that is asked for changes. What is run is this
program, with a configuration that only the options before the dashes have changed. -/
theorem program_is_taken_verbatim (hpre : "--" ∉ pre) (hcmd' : cmd' ≠ [])
    (h : parse (pre ++ "--" :: cmd) = .ok q) (hq : q.invocation.command?.isSome) :
    q.invocation.command? = some cmd ∧
      parse (pre ++ "--" :: cmd') = .ok (q.withCommand cmd') ∧
      ∀ options, q.invocation = .run options cmd → ∀ loaded : Config,
        (options.override cmd' loaded).command = cmd' ∧
          ChangesOnly (fun opt => ∃ word ∈ pre, opt.GivenBy word) loaded
            (options.override cmd' loaded) := by
  obtain ⟨top, s, words, hwords, hrest⟩ := exists_subcommand hpre rfl h
  rw [parse, hrest] at h
  obtain ⟨hcommand, hparse, hoptions⟩ :=
    readSubcommand_withCommand (fun hmem => hpre (hwords hmem)) hcmd' h hq
  refine ⟨hcommand, by rw [parse, hrest, hparse], fun options hrun loaded => ?_⟩
  refine ⟨Options.command_override hcmd', Options.override_changesOnly (fun opt hopt => ?_) loaded⟩
  obtain ⟨word, hmem, hgiven⟩ := hoptions options hrun opt hopt
  exact ⟨word, hwords hmem, hgiven⟩

/-- The program may look like a command line of its own. -/
theorem program_that_looks_like_a_command_line :
    parse (["--log-level=info", "r", "-i", "cases"] ++ "--" :: ["--", "-h", "", "run"]) =
        .ok ⟨.info, .run { inputDir := some (.ofString "cases") } ["--", "-h", "", "run"]⟩ ∧
      ∀ loaded : Config,
        (Options.override { inputDir := some (.ofString "cases") } ["--", "-h", "", "run"]
          loaded).suffix = loaded.suffix := by
  have h : parse (["--log-level=info", "r", "-i", "cases"] ++ "--" :: ["a"]) =
      .ok ⟨.info, .run { inputDir := some (.ofString "cases") } ["a"]⟩ := by decide +kernel
  obtain ⟨-, hparse, hchanges⟩ :=
    program_is_taken_verbatim (by decide) (List.cons_ne_nil "--" ["-h", "", "run"]) h rfl
  exact ⟨hparse, fun loaded => (hchanges _ rfl loaded).2.suffix (by decide +kernel)⟩

end Rehearsal.CommandLine
