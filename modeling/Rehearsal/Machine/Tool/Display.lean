import Rehearsal.Shell.Word

/-!
# Text made visible

Lines with their numbers, with a mark at their ends, without the empty ones that follow another, and
with the characters that cannot be seen written out. The text comes in portions, so what has been
seen of a line is kept in a `Display.State`.
-/

namespace Rehearsal.Machine

open Shell (Text)

namespace Display

/-- What is made visible. -/
structure Style where
  /-- Lines get numbers. -/
  numbers : Bool := false
  /-- Empty lines get none. -/
  skipsEmpty : Bool := false
  /-- Of empty lines that follow one another only the first is kept. -/
  squeezes : Bool := false
  marksEnds : Bool := false
  marksTabs : Bool := false
  /-- Characters that cannot be seen are written out. -/
  marksOthers : Bool := false
  deriving DecidableEq, Repr

/-- What has been seen of a text. -/
structure State where
  /-- The number of the last line that got one. -/
  number : Nat := 0
  /-- Is this the inside of a line? -/
  inLine : Bool := false
  /-- Empty lines just before, of which no more than two count. -/
  empties : Nat := 0
  /-- Is there a carriage return that may belong to the end of a line? -/
  heldReturn : Bool := false
  deriving DecidableEq, Repr

/-- A character that cannot be seen, written out. -/
def visible (b : UInt8) : Text :=
  let low (n : Nat) : Text :=
    if n < 32 then ['^', Char.ofNat (n + 64)]
    else if n = 127 then ['^', '?']
    else [Char.ofNat n]
  if b < 128 then low b.toNat else 'M' :: '-' :: low (b.toNat - 128)

/-- A character inside a line. -/
def Style.inside (style : Style) (b : UInt8) : Text :=
  if b = 9 then (if style.marksTabs then ['^', 'I'] else ['\t'])
  else if style.marksOthers then visible b
  else [Char.ofNat b.toNat]

/-- The next number, if lines get numbers. -/
def State.count (s : State) (counts : Bool) : State × Text :=
  if !counts then (s, [])
  else
    let ds := Text.ofNat (s.number + 1)
    ({ s with number := s.number + 1 }, List.replicate (6 - ds.length) ' ' ++ ds ++ ['\t'])

/-- The end of a line. -/
def State.endLine (s : State) (style : Style) : State × Text :=
  let mark := if style.marksEnds then (if s.heldReturn then "^M$\n" else "$\n") else "\n"
  if s.inLine then ({ s with inLine := false, empties := 0, heldReturn := false }, mark.toList)
  else if style.squeezes && 0 < s.empties then (s, [])
  else
    let (s, number) := s.count (style.numbers && !style.skipsEmpty)
    ({ s with empties := s.empties + 1 }, number ++ mark.toList)

/-- One more character. -/
def State.take (style : Style) (s : State) (b : UInt8) : State × Text :=
  if b = 10 then s.endLine style
  else
    let (s, number) := s.count (style.numbers && !s.inLine)
    let before := if s.heldReturn then number ++ ['\r'] else number
    let s := { s with inLine := true, heldReturn := false }
    if b = 13 && style.marksEnds && !style.marksOthers then
      ({ s with heldReturn := true }, before)
    else (s, before ++ style.inside b)

/-- A portion of a text, made visible. -/
def State.takeAll (style : Style) (s : State) (data : Bytes) : State × Bytes :=
  let (s, out) := data.foldl (fun (s, out) b =>
    let (s, t) := State.take style s b
    (s, Text.toBytes t :: out)) (s, ([] : List Bytes))
  (s, out.reverse.flatten)

end Display

end Rehearsal.Machine
