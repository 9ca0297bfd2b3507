import Rehearsal.Cursor
import Rehearsal.Sink

/-!
# Comparing output with the script

Output is compared line by line as it arrives. A line is right if what is left of the expected
output starts with it; it is then echoed and dropped from what is expected. After the first wrong
line every further line counts as wrong: there is no attempt to find the way back. The comparison
stops when as many wrong lines have been seen as the cap allows, or when the echo is refused.

What follows the last newline waits in the cursor for the rest of its line.
-/

namespace Rehearsal

/-- What a comparison of new output came to. -/
inductive Flow where
  /-- All of it was compared. -/
  | more
  /-- The cap on wrong lines was reached. -/
  | stop
  /-- The sink refused the echo of a right line. -/
  | echoFull
  deriving DecidableEq, Repr

/-- A comparator, by the number of wrong lines at which it stops. -/
structure Comparator where
  cap : Nat
  deriving DecidableEq, Repr

/-- The state after a comparison. -/
structure Fed where
  flow : Flow
  cursor : Cursor
  echo : Sink

namespace Comparator

/-- The comparator for a threshold; at least one wrong line is always taken. -/
def ofThreshold (threshold : Nat) : Comparator := ⟨max threshold 1⟩

/-- Is this complete line right? -/
def accepts (c : Cursor) (line : Bytes) : Bool := !c.diverged && line.isPrefixOf c.expected

/-- Compare complete lines in order. -/
def compareLines (k : Comparator) (c : Cursor) (echo : Sink) : List Bytes → Fed
  | [] => ⟨.more, c, echo⟩
  | line :: lines =>
    if accepts c line then
      match echo.write line with
      | .ok echo => k.compareLines (c.consumeExpected line) echo lines
      | .error echo => ⟨.echoFull, c, echo⟩
    else
      let c := c.addMismatch line
      if k.cap ≤ c.mismatches.size then ⟨.stop, c, echo⟩ else k.compareLines c echo lines

/-- Compare new output. The unfinished line is kept only if all of the output was compared. -/
def feed (k : Comparator) (c : Cursor) (data : Bytes) (echo : Sink) : Fed :=
  let (lines, rest) := Bytes.splitLines (c.carry ++ data)
  let fed := k.compareLines { c with carry := [] } echo lines
  match fed.flow with
  | .more => { fed with cursor := { fed.cursor with carry := rest } }
  | _ => fed

end Comparator

end Rehearsal
