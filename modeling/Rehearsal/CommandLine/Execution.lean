import Rehearsal.CommandLine.Overrides
import Rehearsal.CommandLine.Parser
import Rehearsal.Config.Example
import Rehearsal.Config.Load
import Rehearsal.Host
import Rehearsal.Batch

/-!
# Carrying out a command line

Each subcommand works on a host and writes to a sink. Tests are run on a stage over that host:
`Host.stage`, or another one. A subcommand succeeds, in the sense of the exit status, if every test
passes; what stops it is a `Failure`.
-/

namespace Rehearsal.CommandLine

/-- Why a subcommand came to nothing. -/
inductive Failure where
  | notCreated (cause : FileError)
  | notConfigured (cause : Config.LoadError)
  | invalid (cause : Config.Invalid)
  | notPlayed (cause : Batch.Failure)
  | notReported (cause : FileError)
  deriving DecidableEq, Repr

namespace Failure

/-- What went wrong and why, outermost first. -/
def chain : Failure → List String
  | .notCreated cause => cause.chain
  | .notConfigured cause => cause.chain
  | .invalid cause => cause.chain
  | .notPlayed cause => cause.chain
  | .notReported cause => BatchOutcome.reportContext :: cause.chain

/-- Does the program break off here, and report nothing? -/
def breaksOff : Failure → Bool
  | .notPlayed (.notRun .overflow) => true
  | _ => false

/-- A text behind its number, its further lines indented as far as the first. -/
def indented (first rest : String) (text : String) : String :=
  first ++ ("\n" ++ rest).intercalate (text.splitOn "\n")

/-- A number to the right of five columns. -/
def numbered (n : Nat) : String :=
  let digits := toString n
  String.ofList (List.replicate (5 - digits.length) ' ') ++ digits ++ ": "

/-- The causes of an error, each on a line. Several causes are numbered. -/
def causes : List String → String
  | [] => ""
  | [cause] => "\n\nCaused by:\n" ++ indented "    " "    " cause
  | all => "\n\nCaused by:" ++ String.join
      (all.zipIdx.map fun (cause, n) => "\n" ++ indented (numbered n) "       " cause)

/-- What is written of a failure on the error output. -/
def report (f : Failure) : String :=
  match f.chain with
  | [] => "Error: "
  | message :: rest => "Error: " ++ message ++ causes rest

end Failure

/-- Part of the work of a subcommand. -/
abbrev Act := ExceptT Failure (StateM (Batch.Scene Host))

/-- A part of a run as a part of a subcommand. -/
def play {α : Type} (act : Batch.Act Host α) : Act α := fun scene =>
  match act scene with
  | (.ok a, scene) => (.ok a, scene)
  | (.error cause, scene) => (.error (.notPlayed cause), scene)

/-- The result of a change to the files. -/
def changeFiles (fail : FileError → Failure) (change : Host → FileTree.Change) : Act Unit := do
  let scene ← get
  let (files, result) := change scene.world
  set { scene with world := { scene.world with files } }
  match result with
  | .ok () => return ()
  | .error cause => throw (fail cause)

def orFail {ε α : Type} (fail : ε → Failure) : Except ε α → Act α
  | .ok a => return a
  | .error e => throw (fail e)

/-- Write the example configuration to a new file. -/
def runInit (terminal : Terminal) (dir : Path) : Act Bool := do
  let path := dir.join (.ofString Config.fileName)
  changeFiles .notCreated fun h =>
    h.files.writeNew h.directory path (.ofString Config.exampleText)
  let message := terminal.paint { foreground := some .green } ("Created " ++ path.display)
  play (Batch.write (.ofString (message ++ "\n")))
  return true

/-- Run all tests that the configuration asks for. -/
def runAll (stage : Stage Host) (terminal : Terminal) (options : Options) (command : List String) :
    Act Bool := do
  let h := (← get).world
  let loaded := Config.load h.files h.directory h.environment options.config h.directoryPath
  let c := options.override command (← orFail .notConfigured loaded)
  let finder : Finder := { suffix := c.suffix, outputDir := c.outputDir }
  let list (h : Host) : Except FileError (List TestFile) :=
    finder.enumerate h.files h.directory c.inputDir
  let b ← play (Batch.play stage terminal c list)
  if let some path := options.reportJson then
    changeFiles .notReported fun h => b.writeJson h.files h.directory path
  return b.allPassed

/-- The runner that the options of a single test ask for. -/
def runnerOf (options : Options) (command : List String) : Except Config.Invalid Runner := do
  let timing : Timing := {
    step := ← Config.duration "step_delay" options.stepDelayD
    warmup := ← Config.duration "warmup_delay" options.warmupDelayD }
  let timeLimit ← options.timeLimit.mapM (Config.duration "time_limit")
  Config.checkLimits options.limits
  return { command, timing, limits := options.limits, timeLimit }

/-- Run a single test. -/
def runPair (stage : Stage Host) (input expected : Path) (options : Options)
    (command : List String) : Act Bool := do
  let r ← orFail .invalid (runnerOf options command)
  let o ← play (Batch.playPair stage r input expected)
  return o.passed

/-- Carry out what a command line asks for. The result says whether the exit status is success. -/
def execute (stage : Stage Host) (terminal : Terminal) : Invocation → Act Bool
  | .init dir => runInit terminal dir
  | .run options command => runAll stage terminal options command
  | .step input expected options command => runPair stage input expected options command

end Rehearsal.CommandLine
