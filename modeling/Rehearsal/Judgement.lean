import Rehearsal.Session
import Rehearsal.Verdict
import Rehearsal.Limits
import Rehearsal.Text.Quoted

/-!
# Judging a session

How a session ended and what its cursor still holds decide the verdict. The first of these that
holds is the reason: error output; output that ended inside a line; a wrong line; a refusal of
input; the time limit; input left over; expected output left over. If none holds, the test passes.

A diagnostic is a list of notes. `findings` chooses the reason and the notes, `Note.render` writes
a note out, and `judge?` puts the two together. A long list of lines is cut at a sum of two limits,
and where that is not a number of 64 bits there are no notes and there is no verdict. The reason
does not depend on the limits.
-/

namespace Rehearsal

open Checked

/-- A part of a diagnostic. -/
inductive Note where
  /-- A blank line and a line of text. -/
  | heading (text : String)
  /-- A line of input or output, quoted. -/
  | quoted (line : Bytes)
  /-- How many further lines are not shown, and what they are. -/
  | skipped (count : Nat) (what : String)
  /-- Bytes as they came. -/
  | verbatim (bytes : Bytes)
  deriving DecidableEq, Repr

/-- The bytes of a note. -/
def Note.render : Note → Bytes
  | .heading text => .ofString ("\n" ++ text ++ "\n")
  | .quoted line => .ofString (quoteBytes line ++ "\n")
  | .skipped count what =>
    .ofString ("... (skipped " ++ toString count ++ " additional lines of " ++ what ++ ")\n")
  | .verbatim bytes => bytes

/-! ### What is left over -/

/-- A part of a script that a program left over. -/
inductive Leftover where
  /-- Input that a program refused to take. -/
  | unsentInput
  /-- Input that a program had not taken when it ended. -/
  | unreadInput
  /-- Output that a program had not written when it ended. -/
  | missingOutput
  deriving DecidableEq, Repr

namespace Leftover

/-- What is said of this part first. -/
def header : Leftover → String
  | unsentInput => "Program stopped accepting input. Unsent input was:"
  | unreadInput => "Program ended without reading all input. Unused input was:"
  | missingOutput => "Program ended but more output was expected. Expected output was:"

/-- What the lines of this part are called. -/
def what : Leftover → String
  | unsentInput => "unsent input"
  | unreadInput => "unread input"
  | missingOutput => "expected output"

/-- The bytes of this part. -/
def rest (part : Leftover) (c : Cursor) : Bytes :=
  match part with
  | unsentInput | unreadInput => c.remainingInput
  | missingOutput => c.expected

end Leftover

namespace Judgement

/-- One part of a script, cut if it is long. -/
def leftoverNotes? (part : Leftover) (c : Cursor) (l : Limits) : Option (List Note) := do
  let rest := Bytes.lines (part.rest c)
  let heading : Note := .heading ("!!ERROR!! " ++ part.header)
  let threshold ← l.leftoverThreshold?
  if rest.length < threshold then
    return heading :: rest.map .quoted
  else
    let shown ← take? rest l.postCrashLines
    let count ← sub? rest.length l.postCrashLines
    return heading :: (shown.map .quoted ++ [.skipped count part.what])

/-- The input that was not read, if any, and the output that did not come, if any. -/
def leftoversNotes? (c : Cursor) (l : Limits) : Option (List Note) := do
  let input ← if c.remainingInput.isEmpty then some [] else leftoverNotes? .unreadInput c l
  let output ← if c.expected.isEmpty then some [] else leftoverNotes? .missingOutput c l
  return input ++ output

/-! ### Wrong lines -/

/-- What is said before so many wrong lines. -/
def wrongHeading (count : Nat) : String :=
  if count = 1 then "!!INCORRECT OUTPUT!! Your next line of output was:"
  else "!!INCORRECT OUTPUT!! Your next " ++ toString count ++ " lines of output were:"

/-- What is said before so many lines that were expected instead. -/
def expectedHeading (count : Nat) : String :=
  match count with
  | 0 => "but no more output was expected."
  | 1 => "but the next line of output expected was:"
  | n => "but the next " ++ toString n ++ " lines of output expected were:"

/-- What is said of some wrong lines, and of the lines that were expected instead. -/
def mismatchReport (wrong correct : List Bytes) : List Note :=
  .heading (wrongHeading wrong.length) :: wrong.map .quoted ++
    .heading (expectedHeading correct.length) :: correct.map .quoted

/-- The wrong lines that are shown: all of them, unless there are so many that they are cut. -/
def shownMismatches? (c : Cursor) (l : Limits) : Option (List Bytes) := do
  let wrong := c.mismatches.toList
  let threshold ← l.overflowThreshold?
  if threshold ≤ wrong.length then
    let count ← clamp? l.wrongLines 1 wrong.length
    take? wrong count
  else
    return wrong

/-- The wrong lines, and as many of the lines that were expected instead. -/
def mismatchNotes? (c : Cursor) (l : Limits) : Option (List Note) := do
  let wrong ← shownMismatches? c l
  return mismatchReport wrong ((Bytes.lines c.expected).take wrong.length)

/-! ### The verdict -/

/-- What is said of a session that was cut off when time was up. -/
def timeLimitHeading (limit : Duration) : Note :=
  .heading ("!!ERROR!! Program was stopped after running for " ++ limit.secondsText ++ "s.")

/-- Why a test failed and what is said about it; `none` if it passed. -/
def findings (ending : Ending) (c : Cursor) (l : Limits) :
    Option (FailReason × Option (List Note)) :=
  match ending with
  | .errorOutput bytes => some (.stderrOutput, some [.heading "!!ERROR OUTPUT!!", .verbatim bytes])
  | .unterminated =>
    some (.unterminatedOutput, some (
      .heading "!!ERROR!! Program output ended without a newline:" ::
        c.mismatches.toList.map .quoted ++ [.quoted c.carry]))
  | ending =>
    if c.diverged then some (.outputMismatch, mismatchNotes? c l)
    else match ending with
      | .brokenPipe => some (.brokenPipe, leftoverNotes? .unsentInput c l)
      | .timeLimit limit =>
        some (.timeLimitExceeded, (leftoversNotes? c l).map (timeLimitHeading limit :: ·))
      | _ =>
        if !c.remainingInput.isEmpty then some (.unconsumedInput, leftoversNotes? c l)
        else if !c.expected.isEmpty then some (.incompleteOutput, leftoversNotes? c l)
        else none

end Judgement

/-- The verdict on a session, unless a sum of limits goes wrong that it takes. -/
def judge? (ending : Ending) (c : Cursor) (l : Limits) : Option Verdict :=
  match Judgement.findings ending c l with
  | none => some .pass
  | some (reason, notes) => notes.map fun notes => .fail reason (notes.flatMap Note.render)

end Rehearsal
