import Rehearsal.Bytes

/-!
# Progress through a script

A script is the input to be fed to a program and the output expected of it. The cursor says how
far a conversation has come: what is left of the input, with the chunk staged for the next write
in front; what is left of the expected output; the output line that is not complete yet; and the
lines that were not as expected.

Since the staged chunk and the rest of the input are two fields, the staged chunk is always the
front of what is still unsent.
-/

namespace Rehearsal

/-- How far a conversation has come. -/
structure Cursor where
  /-- The chunk that is being sent. -/
  staged : Bytes := []
  /-- The input after the staged chunk. -/
  unstaged : Bytes
  /-- The expected output that has not been seen yet. -/
  expected : Bytes
  /-- Output after the last newline. -/
  carry : Bytes := []
  /-- The lines that were not as expected, in order. -/
  mismatches : Array Bytes := #[]
  /-- Was the program's input closed? -/
  inputClosed : Bool := false
  /-- Was anything wrong seen? -/
  sawError : Bool := false
  deriving DecidableEq, Repr

namespace Cursor

/-- The start of a conversation. -/
def start (input expected : Bytes) : Cursor := { unstaged := input, expected }

/-- The input that has not been sent. -/
def remainingInput (c : Cursor) : Bytes := c.staged ++ c.unstaged

/-- Is a chunk being sent? -/
def hasPending (c : Cursor) : Bool := !c.staged.isEmpty

/-- Was a line not as expected? -/
def diverged (c : Cursor) : Bool := !c.mismatches.isEmpty

/-- Stage the next line of the input, or the unterminated rest; `none` if no input is left. -/
def stage? (c : Cursor) : Option Cursor :=
  if c.remainingInput.isEmpty then none
  else
    let (line, rest) := Bytes.splitFirstLine c.remainingInput
    some { c with staged := line, unstaged := rest }

/-- The part of the staged chunk that goes out when `n` bytes are taken. -/
def sent (c : Cursor) (n : Nat) : Bytes := c.staged.take n

/-- Record that `n` bytes of the staged chunk were taken. -/
def consumeInput (c : Cursor) (n : Nat) : Cursor := { c with staged := c.staged.drop n }

/-- Record a line of output that was as expected. -/
def consumeExpected (c : Cursor) (line : Bytes) : Cursor :=
  { c with expected := c.expected.drop line.length }

/-- Record a line of output that was not as expected. -/
def addMismatch (c : Cursor) (line : Bytes) : Cursor :=
  { c with mismatches := c.mismatches.push line, sawError := true }

/-- What was sent and what is left make up what was there. -/
theorem sent_append_remainingInput (c : Cursor) (n : Nat) :
    c.sent n ++ (c.consumeInput n).remainingInput = c.remainingInput := by
  simp [sent, consumeInput, remainingInput, ← List.append_assoc]

/-- Staging moves no byte. -/
theorem remainingInput_stage {c d : Cursor} (h : c.stage? = some d) :
    d.remainingInput = c.remainingInput := by
  unfold stage? at h
  split at h
  · cases h
  · cases h
    exact Bytes.splitFirstLine_append c.remainingInput

end Cursor

end Rehearsal
