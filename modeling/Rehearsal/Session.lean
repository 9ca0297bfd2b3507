import Rehearsal.Comparator
import Rehearsal.Duration
import Rehearsal.IoError

/-!
# A conversation with a program

A session waits for one event at a time: output arrives or ends, error output arrives or ends,
the program takes some of the staged input or refuses it, a stream breaks, or nothing happens for a
while. Each event moves the session on, ends it or makes it fail; `Session.step` says how, and
`Session.play` is a whole run of events. Nothing else moves a session, so a run is determined by its
events.

Quiet is what moves the script forward: the next line of input is staged, or, when no input is
left, the program's input is closed. After a wrong line, or once one of the two output streams
has ended, nothing more is sent and quiet ends the session.
-/

namespace Rehearsal

/-- Why a session stopped. -/
inductive Ending where
  /-- Both output streams ended, or one ended and the other stayed quiet. -/
  | closed
  /-- Output stayed quiet after a wrong line. -/
  | diverged
  /-- The cap on wrong lines was reached. -/
  | mismatchCap
  /-- The program wrote these bytes as error output. -/
  | errorOutput (bytes : Bytes)
  /-- The program stopped accepting input. -/
  | brokenPipe
  /-- Output ended in the middle of a line. -/
  | unterminated
  /-- The time allowed ran out. -/
  | timeLimit (limit : Duration)
  deriving DecidableEq, Repr

/-- A stream between a session and its program. A session needs all three. -/
inductive Session.Stream where
  | input
  | output
  | errors
  deriving DecidableEq, Repr

/-- What one wait of a session yields. -/
inductive Event where
  /-- Output arrived. -/
  | output (chunk : Bytes)
  /-- The output stream ended. -/
  | outputEnd
  /-- Error output arrived. -/
  | errorOutput (chunk : Bytes)
  /-- The error stream ended. -/
  | errorEnd
  /-- The program's input took this many bytes of the staged chunk. -/
  | accepted (count : Nat)
  /-- The program's input is gone. -/
  | refused
  /-- A stream could not be read or written for another reason than that its other end is gone. -/
  | broken (stream : Session.Stream) (cause : IoError)
  /-- Nothing happened for as long as the session waits. -/
  | quiet
  deriving DecidableEq, Repr

/-- A conversation under way. -/
structure Session where
  cursor : Cursor
  stdinOpen : Bool := true
  stdoutOpen : Bool := true
  stderrOpen : Bool := true
  echo : Sink := {}

namespace Session

/-- What could not be echoed to the sink. -/
inductive EchoFailure where
  | input
  | output
  deriving DecidableEq, Repr

def EchoFailure.message : EchoFailure → String
  | .input => "Failed to echo program input"
  | .output => "Failed to echo program output"

/-- What is said of a stream that is not there. -/
def Stream.missingMessage : Stream → String
  | .input => "Failed to open stdin"
  | .output => "Failed to open stdout"
  | .errors => "Failed to open stderr"

/-- What is said of a stream that breaks. -/
def Stream.brokenMessage : Stream → String
  | .input => "Failed to write to stdin of the program"
  | .output => "Failed to read stdout of the program"
  | .errors => "Failed to read stderr of the program"

/-- Why a session failed. -/
inductive Failure where
  /-- The sink refused an echo. -/
  | notEchoed (what : EchoFailure)
  /-- A stream broke. -/
  | broken (stream : Stream) (cause : IoError)
  deriving DecidableEq, Repr

/-- What went wrong and why, outermost first. -/
def Failure.chain : Failure → List String
  | .notEchoed what => [what.message, Sink.fullMessage]
  | .broken stream cause => [stream.brokenMessage, cause.message]

/-- Where a session stands after some events. -/
inductive Progress where
  | running (s : Session)
  | ended (ending : Ending) (s : Session)
  | failed (failure : Failure) (s : Session)

/-- The session that a step or a run leaves behind. -/
def Progress.session : Progress → Session
  | .running s | .ended _ s | .failed _ s => s

/-- A session at its start. -/
def start (input expected : Bytes) (echo : Sink) : Session :=
  { cursor := .start input expected, echo }

/-- Nothing happened for as long as the session waits. -/
def stepQuiet (s : Session) : Progress :=
  if !(s.stdoutOpen && s.stderrOpen) then .ended .closed s
  else if s.cursor.hasPending then .running s
  else if s.cursor.diverged then .ended .diverged s
  else match s.cursor.stage? with
    | some cursor => .running { s with cursor }
    | none =>
      if s.cursor.inputClosed then .running s
      else .running { s with stdinOpen := false, cursor := { s.cursor with inputClosed := true } }

/-- Output arrived. -/
def stepOutput (k : Comparator) (s : Session) (chunk : Bytes) : Progress :=
  let fed := k.feed s.cursor chunk s.echo
  let s := { s with cursor := fed.cursor, echo := fed.echo }
  match fed.flow with
  | .more => .running s
  | .stop => .ended .mismatchCap s
  | .echoFull => .failed (.notEchoed .output) s

/-- The output stream ended. -/
def stepOutputEnd (s : Session) : Progress :=
  if !s.cursor.carry.isEmpty then .ended .unterminated s
  else
    let s := { s with stdoutOpen := false }
    if s.stderrOpen then .running s else .ended .closed s

/-- Error output arrived. -/
def stepErrorOutput (s : Session) (chunk : Bytes) : Progress :=
  .ended (.errorOutput chunk) { s with cursor := { s.cursor with sawError := true } }

/-- The error stream ended. -/
def stepErrorEnd (s : Session) : Progress :=
  let s := { s with stderrOpen := false }
  if s.stdoutOpen then .running s else .ended .closed s

/-- Some of the staged chunk was taken. It counts as sent before it is echoed. -/
def stepAccepted (s : Session) (count : Nat) : Progress :=
  if count = 0 then .ended .brokenPipe s
  else
    let sent := s.cursor.sent count
    let cursor := s.cursor.consumeInput count
    match s.echo.write sent with
    | .ok echo => .running { s with cursor, echo }
    | .error echo => .failed (.notEchoed .input) { s with cursor, echo }

/-- One event. -/
def step (k : Comparator) (s : Session) : Event → Progress
  | .output chunk => s.stepOutput k chunk
  | .outputEnd => s.stepOutputEnd
  | .errorOutput chunk => s.stepErrorOutput chunk
  | .errorEnd => s.stepErrorEnd
  | .accepted count => s.stepAccepted count
  | .refused => .ended .brokenPipe s
  | .broken stream cause => .failed (.broken stream cause) s
  | .quiet => s.stepQuiet

/-- A run of events. Those after the end of the session are not looked at. -/
def play (k : Comparator) (s : Session) : List Event → Progress
  | [] => .running s
  | e :: events =>
    match s.step k e with
    | .running s => s.play k events
    | done => done

/-- How a session that is over came to its end. One that goes on is cut off when time is up, if the
time is limited. -/
def Progress.conclusion? (timeLimit : Option Duration) : Progress → Option (Except Failure Ending)
  | .running _ => timeLimit.map fun limit => .ok (.timeLimit limit)
  | .ended ending _ => some (.ok ending)
  | .failed failure _ => some (.error failure)

section Conclusion

variable {timeLimit : Option Duration}

theorem isSome_conclusion?_of_limited {progress : Progress} (h : timeLimit.isSome = true) :
    (progress.conclusion? timeLimit).isSome = true := by
  cases progress with
  | running => simpa [Progress.conclusion?] using h
  | ended | failed => rfl

/-- No session goes on after a stream has broken. -/
theorem isSome_conclusion?_of_broken (k : Comparator) (s : Session) (events : List Event)
    (stream : Stream) (cause : IoError) (timeLimit : Option Duration) :
    ((s.play k (events ++ [.broken stream cause])).conclusion? timeLimit).isSome = true := by
  induction events generalizing s with
  | nil => rfl
  | cons e events ih =>
    rw [List.cons_append, play]
    cases s.step k e with
    | running t => exact ih t
    | ended | failed => rfl

end Conclusion

/-- Offer the staged chunk to the program's input, in a world of some kind. An input that was closed
takes nothing of it. -/
def offerStaged {World : Type} (s : Session) (w : World)
    (offer : World → Bytes → Option (Event × World)) : Option (Event × World) :=
  if s.stdinOpen then offer w s.cursor.staged else some (.accepted 0, w)

/-- Can this event be what the session's next wait yields? Only an open stream yields output or its
end, and only a pending chunk can be taken or refused. A stream breaks while it is waited for. -/
def Enabled (s : Session) : Event → Prop
  | .output chunk => s.stdoutOpen = true ∧ chunk ≠ []
  | .outputEnd => s.stdoutOpen = true
  | .errorOutput chunk => s.stderrOpen = true ∧ chunk ≠ []
  | .errorEnd => s.stderrOpen = true
  | .accepted count => s.cursor.hasPending = true ∧ count ≤ s.cursor.staged.length
  | .refused => s.cursor.hasPending = true
  | .broken .output _ => s.stdoutOpen = true
  | .broken .errors _ => s.stderrOpen = true
  | .broken .input _ => s.cursor.hasPending = true
  | .quiet => True

end Session

end Rehearsal
