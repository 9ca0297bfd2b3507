import Rehearsal.Config
import Rehearsal.Log
import Rehearsal.Number.Literal

/-!
# The options of the command line

Every option takes one value, which is read when the option is done with. `Options` holds the
values given so far; an option may be given once.
-/

namespace Rehearsal.CommandLine

/-- Why a command line is not carried out. Asking for help or for the version is one reason. -/
inductive UsageError where
  | invalidSubcommand
  | missingSubcommand
  | unknownArgument
  | missingArgument
  /-- A value is missing, or is empty where it may not be. -/
  | invalidValue
  /-- A value cannot be read. -/
  | unreadableValue
  /-- An option was given twice. -/
  | conflict
  | tooManyValues
  | help
  /-- Nothing was asked for at all. -/
  | helpForNothing
  | version
  deriving DecidableEq, Repr

/-- What is said of a command line that is refused. -/
def UsageError.message : UsageError → String
  | .invalidSubcommand => "there is no such subcommand"
  | .missingSubcommand | .helpForNothing => "a subcommand is missing"
  | .unknownArgument => "an argument is not known"
  | .missingArgument => "an argument is missing"
  | .invalidValue => "a value is missing"
  | .unreadableValue => "a value cannot be read"
  | .conflict => "an option is given twice"
  | .tooManyValues => "a value is given where none may be"
  | .help => "help is asked for"
  | .version => "the version is asked for"

/-- Is this a request that was granted by saying so? -/
def UsageError.isRequest : UsageError → Bool
  | .help | .version => true
  | _ => false

/-- An option. -/
inductive Opt where
  | logLevel
  | config
  | stepDelay
  | warmupDelay
  | timeLimit
  | suffix
  | inputDir
  | outputDir
  | unterminatedOutput
  | reportJson
  | postCrashLines
  | wrongLines
  | overflowMargin
  deriving DecidableEq, Repr

namespace Opt

/-- The long name of an option, after its two dashes. -/
def long : Opt → String
  | .logLevel => "log-level"
  | .config => "config"
  | .stepDelay => "step-delay"
  | .warmupDelay => "warmup-delay"
  | .timeLimit => "time-limit"
  | .suffix => "suffix"
  | .inputDir => "input-dir"
  | .outputDir => "output-dir"
  | .unterminatedOutput => "unterminated-output"
  | .reportJson => "report-json"
  | .postCrashLines => "post-crash-lines"
  | .wrongLines => "wrong-lines"
  | .overflowMargin => "overflow-margin"

/-- The short name of an option, after its dash. -/
def short? : Opt → Option Char
  | .config => some 'c'
  | .inputDir => some 'i'
  | .outputDir => some 'o'
  | _ => none

end Opt

/-- The values of the options. -/
structure Options where
  logLevel : Option Log.Level := none
  config : Option Path := none
  stepDelay : Option Binary64 := none
  warmupDelay : Option Binary64 := none
  timeLimit : Option Binary64 := none
  suffix : Option String := none
  inputDir : Option Path := none
  outputDir : Option Path := none
  unterminatedOutput : Option UnterminatedPolicy := none
  reportJson : Option Path := none
  postCrashLines : Option Nat := none
  wrongLines : Option Nat := none
  overflowMargin : Option Nat := none
  deriving DecidableEq, Repr

/-- Read a path; it may not be empty. -/
def readPath (s : String) : Except UsageError Path :=
  if s.isEmpty then .error .invalidValue else .ok (.ofString s)

/-- What a reader of values gives, or the error of a value that cannot be read. -/
def orUnreadable {E α : Type} : Except E α → Except UsageError α
  | .ok a => .ok a
  | .error _ => .error .unreadableValue

/-- A value that is one of a few. -/
def oneOf {α : Type} : Option α → Except UsageError α
  | some a => .ok a
  | none => .error .unreadableValue

namespace Options

/-- Was an option given? -/
def has (o : Options) : Opt → Bool
  | .logLevel => o.logLevel.isSome
  | .config => o.config.isSome
  | .stepDelay => o.stepDelay.isSome
  | .warmupDelay => o.warmupDelay.isSome
  | .timeLimit => o.timeLimit.isSome
  | .suffix => o.suffix.isSome
  | .inputDir => o.inputDir.isSome
  | .outputDir => o.outputDir.isSome
  | .unterminatedOutput => o.unterminatedOutput.isSome
  | .reportJson => o.reportJson.isSome
  | .postCrashLines => o.postCrashLines.isSome
  | .wrongLines => o.wrongLines.isSome
  | .overflowMargin => o.overflowMargin.isSome

/-- Read the value of an option that has not been given. -/
def put (o : Options) (opt : Opt) (s : String) : Except UsageError Options :=
  match opt with
  | .logLevel => do return { o with logLevel := some (← oneOf (Log.Level.ofText? s)) }
  | .config => do return { o with config := some (← readPath s) }
  | .stepDelay => do return { o with stepDelay := some (← orUnreadable (readNumber s)) }
  | .warmupDelay => do return { o with warmupDelay := some (← orUnreadable (readNumber s)) }
  | .timeLimit => do return { o with timeLimit := some (← orUnreadable (readNumber s)) }
  | .suffix => .ok { o with suffix := some s }
  | .inputDir => do return { o with inputDir := some (← readPath s) }
  | .outputDir => do return { o with outputDir := some (← readPath s) }
  | .unterminatedOutput => do
    return { o with unterminatedOutput := some (← oneOf (UnterminatedPolicy.ofText? s)) }
  | .reportJson => do return { o with reportJson := some (← readPath s) }
  | .postCrashLines => do return { o with postCrashLines := some (← orUnreadable (readCount s)) }
  | .wrongLines => do return { o with wrongLines := some (← orUnreadable (readCount s)) }
  | .overflowMargin => do return { o with overflowMargin := some (← orUnreadable (readCount s)) }

/-- Take the value of an option; it may not have been given before. -/
def take (o : Options) (opt : Opt) (s : String) : Except UsageError Options :=
  if o.has opt then .error .conflict else o.put opt s

/-! ### What holds if a single test says nothing -/

/-- One hundredth of a second between two lines of input. -/
def stepDelayD (o : Options) : Binary64 := o.stepDelay.getD (.ofRatio false 1 100)

/-- A tenth of a second before the first line. -/
def warmupDelayD (o : Options) : Binary64 := o.warmupDelay.getD (.ofRatio false 1 10)

/-- The limits, each as it was given or as it is by default. -/
def limits (o : Options) : Limits :=
  let standard : Limits := {}
  { postCrashLines := o.postCrashLines.getD standard.postCrashLines
    wrongLines := o.wrongLines.getD standard.wrongLines
    overflowMargin := o.overflowMargin.getD standard.overflowMargin }

end Options

end Rehearsal.CommandLine
