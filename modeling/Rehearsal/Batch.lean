import Rehearsal.Runner
import Rehearsal.BatchReport
import Rehearsal.Style

/-!
# Running all tests

The tests of a directory are run one after another. Each has a section of the output: a header with
the command and the input's path, what is echoed, and the diagnostic of its verdict; a blank line
stands between two sections. A line for each outcome and a summary come last.

A test that cannot be loaded or run stops everything. Output that ends inside a line stops the run
too, in good order, if the policy says so: the tests after it are skipped.
-/

namespace Rehearsal

namespace Batch

/-- Why a run over several tests came to nothing. -/
inductive Failure where
  | invalid (cause : Config.Invalid)
  | notListed (cause : FileError)
  /-- No test case with this suffix in this directory. -/
  | noTestcases (dir : Path) (suffix : String)
  | notLoaded (cause : LoadFailure)
  | notRun (cause : RunFailure)
  /-- The sink refused something other than an echo. -/
  | sinkFull
  deriving DecidableEq, Repr

/-- What went wrong and why, outermost first. -/
def Failure.chain : Failure → List String
  | .invalid cause => cause.chain
  | .notListed cause => "Failed to find testcases" :: cause.chain
  | .noTestcases dir suffix =>
    ["No testcases found in " ++ dir.display ++ " (looking for '*." ++ suffix ++ "')"]
  | .notLoaded cause => cause.chain
  | .notRun cause => cause.chain
  | .sinkFull => [Sink.fullMessage]

/-- The world and the sink that a run works on. -/
structure Scene (World : Type) where
  world : World
  out : Sink

/-- A part of a run: it works on a scene and gives a result or fails. What it did to the scene
stays either way. -/
abbrev Act (World α : Type) := ExceptT Failure (StateM (Scene World)) α

variable {World : Type}

/-- Write to the sink. -/
def write (data : Bytes) : Act World Unit := do
  let scene ← get
  match scene.out.write data with
  | .ok out => set { scene with out }
  | .error out =>
    set { scene with out }
    throw .sinkFull

/-- The line over a test's section. -/
def header (r : Runner) (input : Path) : Bytes :=
  .ofString ("$ " ++ r.commandLine ++ " < " ++ input.display ++ "\n")

/-- Run one test case that is loaded, and write its section below the header. -/
def playLoaded (stage : Stage World) (r : Runner) (t : Testcase) : Act World Outcome := do
  let scene ← get
  let (result, out, world) := stage.run scene.world r t scene.out
  set (Scene.mk world out)
  match result with
  | .error cause => throw (.notRun cause)
  | .ok o =>
    write o.verdict.diagnostic
    return o

/-- Load and run one test case. -/
def playFile (stage : Stage World) (r : Runner) (f : TestFile) : Act World Outcome := do
  let scene ← get
  match stage.load scene.world f with
  | .error cause => throw (.notLoaded cause)
  | .ok t => playLoaded stage r t

/-- Does this outcome break the run off? -/
def breaksOff (policy : UnterminatedPolicy) (o : Outcome) : Bool :=
  o.verdict.reason? == some .unterminatedOutput && policy == .abortBatch

/-- Run test cases in order, until one breaks the run off. The second part of the result says
whether one did. -/
def playFiles (stage : Stage World) (r : Runner) (policy : UnterminatedPolicy) (first : Bool) :
    List TestFile → Act World (List Outcome × Bool)
  | [] => return ([], false)
  | f :: fs => do
    unless first do write [Bytes.newline]
    write (header r f.inputPath)
    let o ← playFile stage r f
    if breaksOff policy o then return ([o], true)
    let (outcomes, aborted) ← playFiles stage r policy false fs
    return (o :: outcomes, aborted)

/-- What is written after the last section. -/
def closing (terminal : Terminal) (b : BatchOutcome) : Bytes :=
  Bytes.newline :: b.outcomes.flatMap (fun o => Bytes.ofString (terminal.resultLine o)) ++
    Bytes.ofString (terminal.summary b.outcomes b.skipped)

/-- Run all of these test cases and write everything. -/
def playAll (stage : Stage World) (terminal : Terminal) (r : Runner) (policy : UnterminatedPolicy)
    (fs : List TestFile) : Act World BatchOutcome := do
  let (outcomes, aborted) ← playFiles stage r policy true fs
  let b : BatchOutcome := { outcomes, skipped := fs.length - outcomes.length, aborted }
  write (closing terminal b)
  return b

/-- Run the test cases that a configuration asks for. `list` finds them. -/
def play (stage : Stage World) (terminal : Terminal) (c : Config)
    (list : World → Except FileError (List TestFile)) : Act World BatchOutcome := do
  match c.runner with
  | .error cause => throw (.invalid cause)
  | .ok r =>
    match list (← get).world with
    | .error cause => throw (.notListed cause)
    | .ok [] => throw (.noTestcases c.inputDir c.suffix)
    | .ok fs => playAll stage terminal r c.unterminatedOutput fs

/-- The name of a test that is given by the path of its input: the file name without its
extension, or the whole path if it has no file name. -/
def nameOfInput (input : Path) : String :=
  match input.fileStem? with
  | some stem => stem.toStringLossy
  | none => input.display

/-- Run a single test, given by its two files. -/
def playPair (stage : Stage World) (r : Runner) (input expected : Path) : Act World Outcome :=
  playFile stage r { name := nameOfInput input, inputPath := input, expectedPath := expected }

end Batch

end Rehearsal
