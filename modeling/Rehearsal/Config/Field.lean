import Rehearsal.Config
import Rehearsal.Number.Literal

/-!
# The fields of a configuration

A configuration is read from pairs of a key and a value, whatever the values are made of: a
`ValueReader` says how one kind of value is read as a number, a count, a text and so on. Pairs are
taken in order into a `Draft`, and keys that name no field are passed over. What is still missing
at the end is reported in the order of `Field.all`.
-/

namespace Rehearsal.Config

/-- A field that may be given. -/
inductive Field where
  | stepDelay
  | warmupDelay
  | postCrashLines
  | wrongLines
  | overflowMargin
  | suffix
  | inputDir
  | outputDir
  | command
  | timeLimit
  | unterminatedOutput
  deriving DecidableEq, Repr

namespace Field

def all : List Field :=
  [.stepDelay, .warmupDelay, .postCrashLines, .wrongLines, .overflowMargin, .suffix, .inputDir,
    .outputDir, .command, .timeLimit, .unterminatedOutput]

/-- The key of a field. -/
def key : Field → String
  | .stepDelay => "step_delay"
  | .warmupDelay => "warmup_delay"
  | .postCrashLines => "post_crash_lines"
  | .wrongLines => "wrong_lines"
  | .overflowMargin => "overflow_margin"
  | .suffix => "suffix"
  | .inputDir => "input_dir"
  | .outputDir => "output_dir"
  | .command => "command"
  | .timeLimit => "time_limit"
  | .unterminatedOutput => "unterminated_output"

/-- The field of a key. -/
def ofKey? (k : String) : Option Field := all.find? (·.key == k)

end Field

/-- How values of type `V` are read. -/
structure ValueReader (V E : Type) where
  number : V → Except E Binary64
  count : V → Except E Nat
  text : V → Except E String
  path : V → Except E Path
  words : V → Except E (List String)
  policy : V → Except E UnterminatedPolicy

/-- A configuration of which some fields are known. -/
structure Draft where
  stepDelay : Option Binary64 := none
  warmupDelay : Option Binary64 := none
  postCrashLines : Option Nat := none
  wrongLines : Option Nat := none
  overflowMargin : Option Nat := none
  suffix : Option String := none
  inputDir : Option Path := none
  outputDir : Option Path := none
  command : Option (List String) := none
  timeLimit : Option Binary64 := none
  unterminatedOutput : Option UnterminatedPolicy := none

namespace Draft

/-- Is a field known? -/
def has (d : Draft) : Field → Bool
  | .stepDelay => d.stepDelay.isSome
  | .warmupDelay => d.warmupDelay.isSome
  | .postCrashLines => d.postCrashLines.isSome
  | .wrongLines => d.wrongLines.isSome
  | .overflowMargin => d.overflowMargin.isSome
  | .suffix => d.suffix.isSome
  | .inputDir => d.inputDir.isSome
  | .outputDir => d.outputDir.isSome
  | .command => d.command.isSome
  | .timeLimit => d.timeLimit.isSome
  | .unterminatedOutput => d.unterminatedOutput.isSome

/-- Read the value of a field. -/
def put {V E : Type} (r : ValueReader V E) (d : Draft) (f : Field) (v : V) : Except E Draft :=
  match f with
  | .stepDelay => do return { d with stepDelay := some (← r.number v) }
  | .warmupDelay => do return { d with warmupDelay := some (← r.number v) }
  | .postCrashLines => do return { d with postCrashLines := some (← r.count v) }
  | .wrongLines => do return { d with wrongLines := some (← r.count v) }
  | .overflowMargin => do return { d with overflowMargin := some (← r.count v) }
  | .suffix => do return { d with suffix := some (← r.text v) }
  | .inputDir => do return { d with inputDir := some (← r.path v) }
  | .outputDir => do return { d with outputDir := some (← r.path v) }
  | .command => do return { d with command := some (← r.words v) }
  | .timeLimit => do return { d with timeLimit := some (← r.number v) }
  | .unterminatedOutput => do return { d with unterminatedOutput := some (← r.policy v) }

/-- A known value, or the field that is missing. -/
def require {α : Type} (f : Field) : Option α → Except Field α
  | some a => .ok a
  | none => .error f

/-- The configuration, or the first field that is missing. The slack, the time limit and the
policy need not be given. -/
def complete (d : Draft) : Except Field Config := do
  let stepDelay ← require .stepDelay d.stepDelay
  let warmupDelay ← require .warmupDelay d.warmupDelay
  let postCrashLines ← require .postCrashLines d.postCrashLines
  let wrongLines ← require .wrongLines d.wrongLines
  let overflowMargin := d.overflowMargin.getD 5
  let suffix ← require .suffix d.suffix
  let inputDir ← require .inputDir d.inputDir
  let outputDir ← require .outputDir d.outputDir
  let command ← require .command d.command
  return {
    stepDelay, warmupDelay, suffix, inputDir, outputDir, command
    limits := { postCrashLines, wrongLines, overflowMargin }
    timeLimit := d.timeLimit
    unterminatedOutput := d.unterminatedOutput.getD .default }

end Draft

end Rehearsal.Config
