import Rehearsal.Text.Utf8

/-!
# Verdicts

A test either passes or fails for one reason, with a diagnostic: a text for the reader, as bytes,
because error output is reproduced as it came.
-/

namespace Rehearsal

/-- Why a test failed. -/
inductive FailReason where
  /-- The program ended before reading all of the input. -/
  | unconsumedInput
  /-- The program ended before writing all of the expected output. -/
  | incompleteOutput
  /-- A line of output was not as expected. -/
  | outputMismatch
  /-- The program wrote error output. -/
  | stderrOutput
  /-- The program stopped accepting input. -/
  | brokenPipe
  /-- Output ended in the middle of a line. -/
  | unterminatedOutput
  /-- The time allowed ran out. -/
  | timeLimitExceeded
  deriving DecidableEq, Repr

namespace FailReason

/-- All reasons, in the order in which a summary lists them. -/
def all : List FailReason :=
  [.unconsumedInput, .incompleteOutput, .outputMismatch, .stderrOutput, .brokenPipe,
    .unterminatedOutput, .timeLimitExceeded]

/-- The name of a reason in a report. -/
def name : FailReason → String
  | .unconsumedInput => "UnconsumedInput"
  | .incompleteOutput => "IncompleteOutput"
  | .outputMismatch => "OutputMismatch"
  | .stderrOutput => "StderrOutput"
  | .brokenPipe => "BrokenPipe"
  | .unterminatedOutput => "UnterminatedOutput"
  | .timeLimitExceeded => "TimeLimitExceeded"

/-- The short tag of a reason in a badge. -/
def tag : FailReason → String
  | .unconsumedInput => "UNREAD"
  | .incompleteOutput => "SHORT"
  | .outputMismatch => "WRONG"
  | .stderrOutput => "STDERR"
  | .brokenPipe => "PIPE"
  | .unterminatedOutput => "NOEOL"
  | .timeLimitExceeded => "TLE"

end FailReason

/-- What a test came to. -/
inductive Verdict where
  | pass
  | fail (reason : FailReason) (diagnostic : Bytes)
  deriving DecidableEq, Repr

namespace Verdict

def isPass : Verdict → Bool
  | .pass => true
  | .fail .. => false

def reason? : Verdict → Option FailReason
  | .pass => none
  | .fail reason _ => some reason

def diagnostic : Verdict → Bytes
  | .pass => []
  | .fail _ diagnostic => diagnostic

/-- The diagnostic as text. -/
def diagnosticText (v : Verdict) : String := v.diagnostic.toStringLossy

end Verdict

end Rehearsal
