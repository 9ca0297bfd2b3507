import Rehearsal.Machine.Tool.Counts
import Rehearsal.Machine.Tool.Display
import Rehearsal.Machine.Tool.Summary

/-!
# Filters

A filter is told what is read, portion by portion, and where one input ends and the next one
begins; each time it says what is to be written. `take`, `opened`, `closed` and `finish` are what it
does.
-/

namespace Rehearsal.Machine

open Shell (Text)

/-- What a filter makes of what it reads. -/
inductive Filter where
  | copy
  | display (style : Display.Style) (state : Display.State)
  /-- The first lines or bytes of every input, and how many are left of this one. -/
  | head (lines : Bool) (count left : Nat)
  /-- Bytes in place of others, bytes left out, bytes not repeated, and the last one written. -/
  | substitute (table : List (UInt8 × UInt8)) (deleted squeezed : List UInt8) (last : Option UInt8)
  /-- Something of every input, or of all of them together. -/
  | summarize (s : Summary) (perInput : Bool) (taken : List Bytes)
  /-- Counts of every input; those of the inputs before are added up, if there is more than one. -/
  | count (style : CountStyle) (total : Option Counts) (taken : List Bytes)
  deriving Repr

namespace Filter

/-- The first lines of some bytes, and how many lines are still wanted. -/
def takeLines (left : Nat) (data : Bytes) : Bytes × Nat :=
  let ls := Bytes.lines data
  let taken := ls.take left
  let complete := taken.countP fun l => l.getLast? = some Bytes.newline
  (taken.flatten, left - complete)

/-- Replace one byte, or leave it out. The second part of the state is the output, backwards. -/
def substituteByte (table : List (UInt8 × UInt8)) (deleted squeezed : List UInt8)
    (state : Option UInt8 × Bytes) (b : UInt8) : Option UInt8 × Bytes :=
  if deleted.contains b then state
  else
    let c := (table.lookup b).getD b
    if state.1 = some c && squeezed.contains c then state else (some c, c :: state.2)

/-- What a filter makes of new input: the filter afterwards, and its output. -/
def take (f : Filter) (data : Bytes) : Filter × Bytes :=
  match f with
  | .copy => (.copy, data)
  | .display style state =>
    let (state, out) := state.takeAll style data
    (.display style state, out)
  | .head true wanted left =>
    let (out, left) := takeLines left data
    (.head true wanted left, out)
  | .head false wanted left => (.head false wanted (left - data.length), data.take left)
  | .substitute table deleted squeezed last =>
    let (last, out) := data.foldl (substituteByte table deleted squeezed) (last, [])
    (.substitute table deleted squeezed last, out.reverse)
  | .summarize s perInput taken => (.summarize s perInput (data :: taken), [])
  | .count style total taken => (.count style total (data :: taken), [])

/-- Does a filter want no more of an input? -/
def hasEnough : Filter → Bool
  | .head _ _ left => left = 0
  | _ => false

/-- A filter at the beginning of an input. -/
def opened : Filter → Filter
  | .head lines wanted _ => .head lines wanted wanted
  | f => f

/-- A filter at the end of an input, which may have a name, and its output. -/
def closed (name : Option Text) : Filter → Filter × Bytes
  | .summarize s true taken => (.summarize s true [], s.result taken.reverse.flatten)
  | .count style total taken =>
    let counts := Counts.ofBytes taken.reverse.flatten
    (.count style (total.map counts.add) [], Text.toBytes (counts.line style name))
  | f => (f, [])

/-- The last output of a filter. -/
def finish : Filter → Bytes
  | .display _ state => if state.heldReturn then [13] else []
  | .summarize s false taken => s.result taken.reverse.flatten
  | .count style (some total) _ => Text.toBytes (total.line style (some "total".toList))
  | _ => []

end Filter

end Rehearsal.Machine
