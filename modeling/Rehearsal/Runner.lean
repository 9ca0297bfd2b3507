import Rehearsal.Judgement
import Rehearsal.Config
import Rehearsal.CommandText
import Rehearsal.Testcase
import Rehearsal.Outcome

/-!
# Running one test

A runner is a program with the pace, the limits and the time that its tests are given. What happens
when the program is started is a `Performance`: it cannot be started, or it plays the events of a
whole session. A runner makes of every performance an outcome or a failure, so what becomes of a
test depends on nothing but the test case and the events, and the sink on nothing but these and its
room.

A session that its events do not stop goes on until time is up. Without a limit on the time it would
never be over, so then the events of a performance stop it (`Runner.IsOver`).
-/

namespace Rehearsal

/-- A program and how its tests are run. -/
structure Runner where
  command : List String
  timing : Timing := {}
  limits : Limits := {}
  timeLimit : Option Duration := none
  deriving DecidableEq, Repr

/-- Why a test came to nothing. -/
inductive RunFailure where
  | emptyCommand
  | notStarted (command : String) (cause : IoError)
  | notPlayed (cause : Session.Failure)
  /-- A sum of limits is not a number of 64 bits. This is nothing that the program reports: it
  breaks off where it takes the sum. -/
  | overflow
  deriving DecidableEq, Repr

/-- What went wrong and why, outermost first. -/
def RunFailure.chain : RunFailure → List String
  | .emptyCommand => ["Empty command"]
  | .notStarted command cause => ["Failed to spawn '" ++ command ++ "'", cause.message]
  | .notPlayed cause => cause.chain
  | .overflow => ["attempt to add with overflow"]

/-- The runner that a configuration asks for. -/
def Config.runner (c : Config) : Except Config.Invalid Runner := do
  c.validate
  return {
    command := c.command
    timing := ← c.timing
    limits := c.limits
    timeLimit := ← c.timeLimitDuration }

namespace Runner

/-- The program as its user would type it. -/
def commandLine (r : Runner) : String := Rehearsal.commandLine r.command

/-- The comparator that the limits ask for, if their sum is a number of 64 bits. -/
def comparator? (r : Runner) : Option Comparator :=
  r.limits.overflowThreshold?.map .ofThreshold

/-- Are these the events of a whole session? They stop it, or it goes on until time is up. -/
def IsOver (r : Runner) (k : Comparator) (t : Testcase) (events : List Event) : Prop :=
  ∀ echo,
    (((Session.start t.input t.expected echo).play k events).conclusion? r.timeLimit).isSome = true

end Runner

/-- What happened when a program was started to be compared with a test case. -/
inductive Performance (k : Comparator) (r : Runner) (t : Testcase) where
  /-- It could not be started. -/
  | unstarted (cause : IoError)
  /-- It was started; these events followed and took so long. -/
  | played (events : List Event) (elapsed : Duration) (isOver : r.IsOver k t events)

namespace Runner

/-- What becomes of a test by the way in which its session came to its end. -/
def resultOf (r : Runner) (t : Testcase) (c : Cursor) (elapsed : Duration) :
    Except Session.Failure Ending → Except RunFailure Outcome
  | .error cause => .error (.notPlayed cause)
  | .ok ending =>
    match judge? ending c r.limits with
    | some verdict => .ok ⟨t.name, verdict, elapsed⟩
    | none => .error .overflow

/-- What the events of a performance come to, and what the sink holds afterwards. -/
def conclude (r : Runner) {k : Comparator} {t : Testcase} (echo : Sink) {events : List Event}
    (elapsed : Duration) (isOver : r.IsOver k t events) : Except RunFailure Outcome × Sink :=
  let progress := (Session.start t.input t.expected echo).play k events
  let conclusion := (progress.conclusion? r.timeLimit).get (isOver echo)
  (r.resultOf t progress.session.cursor elapsed conclusion, progress.session.echo)

theorem conclude_of_conclusion? {r : Runner} {k : Comparator} {t : Testcase} {echo : Sink}
    {events : List Event} {elapsed : Duration} {conclusion : Except Session.Failure Ending}
    (isOver : r.IsOver k t events)
    (h : ((Session.start t.input t.expected echo).play k events).conclusion? r.timeLimit =
      some conclusion) :
    r.conclude echo elapsed isOver =
      let s := ((Session.start t.input t.expected echo).play k events).session
      (r.resultOf t s.cursor elapsed conclusion, s.echo) := by
  rw [conclude]
  dsimp only
  rw [Option.get_of_eq_some _ h]

/-- What a performance comes to, and what the sink holds afterwards. -/
def outcome (r : Runner) {k : Comparator} {t : Testcase} (echo : Sink) :
    Performance k r t → Except RunFailure Outcome × Sink
  | .unstarted cause => (.error (.notStarted r.commandLine cause), echo)
  | .played _ elapsed isOver => r.conclude echo elapsed isOver

end Runner

/-- Where programs are run: a world of some kind in which test cases are found and programs are
started, which may change it. -/
structure Stage (World : Type) where
  load : World → TestFile → Except LoadFailure Testcase
  perform : World → (k : Comparator) → (r : Runner) → (t : Testcase) → Performance k r t × World

/-- Run one test. -/
def Stage.run {World : Type} (stage : Stage World) (w : World) (r : Runner) (t : Testcase)
    (echo : Sink) : Except RunFailure Outcome × Sink × World :=
  match r.comparator? with
  | none => (.error .overflow, echo, w)
  | some k =>
    match r.command with
    | [] => (.error .emptyCommand, echo, w)
    | _ :: _ =>
      let (performance, w) := stage.perform w k r t
      let (result, echo) := r.outcome echo performance
      (result, echo, w)

theorem Stage.run_of_comparator? {World : Type} {stage : Stage World} {w : World} {r : Runner}
    {t : Testcase} {echo : Sink} {k : Comparator} (hk : r.comparator? = some k)
    (hcommand : r.command ≠ []) :
    stage.run w r t echo =
      ((r.outcome echo (stage.perform w k r t).1).1, (r.outcome echo (stage.perform w k r t).1).2,
        (stage.perform w k r t).2) := by
  rw [Stage.run, hk]
  cases h : r.command with
  | nil => exact absurd h hcommand
  | cons name args => rfl

end Rehearsal
