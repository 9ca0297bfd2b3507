import Rehearsal.Path
import Rehearsal.Limits
import Rehearsal.Duration

/-!
# Configuration

What a run needs to know: the program, where its scripts are, how long to wait, and how much to
show. `validate` says which configurations can be run; the first thing that is wrong is reported.
-/

namespace Rehearsal

/-- What a run does when output ends in the middle of a line. -/
inductive UnterminatedPolicy where
  /-- The whole run is broken off. -/
  | abortBatch
  /-- Only this test fails. -/
  | failCase
  deriving DecidableEq, Repr, Inhabited

namespace UnterminatedPolicy

/-- The policy that holds if none is chosen. -/
def default : UnterminatedPolicy := .abortBatch

/-- How a policy is written. -/
def text : UnterminatedPolicy → String
  | .abortBatch => "abort-batch"
  | .failCase => "fail-case"

/-- Read a policy; only the exact text counts. -/
def ofText? (s : String) : Option UnterminatedPolicy :=
  if s = "abort-batch" then some .abortBatch
  else if s = "fail-case" then some .failCase
  else none

/-- What is said of a text that is no policy. -/
def unknownMessage : String := "Matching variant not found"

theorem ofText?_text (p : UnterminatedPolicy) : ofText? p.text = some p := by
  cases p <;> simp [ofText?, text]

end UnterminatedPolicy

/-- How long a session waits. -/
structure Timing where
  /-- How long output may stay quiet before the next line of input is sent. -/
  step : Duration := .ofMillis 10
  /-- The same before the first line. -/
  warmup : Duration := .ofMillis 100
  deriving DecidableEq, Repr

/-- The configuration of a run. -/
structure Config where
  /-- The file that it was read from, if it was read from one. -/
  sourceFile : Option Path := none
  stepDelay : Binary64
  warmupDelay : Binary64
  limits : Limits
  /-- Scripts are the files whose names end in a dot and this. -/
  suffix : String
  inputDir : Path
  outputDir : Path
  command : List String
  timeLimit : Option Binary64 := none
  unterminatedOutput : UnterminatedPolicy := .default
  deriving DecidableEq, Repr

namespace Config

/-- The name of a configuration file. -/
def fileName : String := "stepper.toml"

/-- What the names of environment variables begin with. -/
def variableStart : String := "STEPPER_"

/-- Why a configuration cannot be run. -/
inductive Invalid where
  | emptyCommand
  | emptySuffix
  | noWrongLines
  /-- The value of this key is not a length of time. -/
  | badDuration (key : String) (seconds : Binary64) (cause : Duration.Error)
  deriving DecidableEq, Repr

/-- What is wrong and why, outermost first. -/
def Invalid.chain : Invalid → List String
  | .emptyCommand => ["`command` must not be empty"]
  | .emptySuffix => ["`suffix` must not be empty"]
  | .noWrongLines => [Limits.invalidMessage]
  | .badDuration key seconds cause =>
    ["`" ++ key ++ "` must be a non-negative number of seconds, got " ++ seconds.text,
      cause.message]

/-- The value of a key as a length of time. -/
def duration (key : String) (seconds : Binary64) : Except Invalid Duration :=
  (Duration.ofSeconds seconds).mapError (.badDuration key seconds)

/-- How long a session waits. -/
def timing (c : Config) : Except Invalid Timing := do
  return ⟨← duration "step_delay" c.stepDelay, ← duration "warmup_delay" c.warmupDelay⟩

/-- The time allowed for a test, if it is limited. -/
def timeLimitDuration (c : Config) : Except Invalid (Option Duration) :=
  match c.timeLimit with
  | none => .ok none
  | some seconds => some <$> duration "time_limit" seconds

/-- Check limits on their own. -/
def checkLimits (l : Limits) : Except Invalid Unit :=
  if l.isValid then .ok () else .error .noWrongLines

/-- Check that a configuration can be run. -/
def validate (c : Config) : Except Invalid Unit := do
  if c.command.isEmpty then throw .emptyCommand
  if c.suffix.isEmpty then throw .emptySuffix
  checkLimits c.limits
  discard c.timing
  discard c.timeLimitDuration

end Config

end Rehearsal
