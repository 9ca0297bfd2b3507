import Rehearsal.Shell.Word

/-!
# What is made of a whole text

Some programs have to read everything before they write: the last lines, the lines in another order,
and so on. A `Summary` says what is made of all that was read.
-/

namespace Rehearsal.Machine

open Shell (Text)

/-- What counts in lines that are put in order. -/
structure SortStyle where
  numeric : Bool := false
  reversed : Bool := false
  unique : Bool := false
  ignoresCase : Bool := false
  ignoresBlanks : Bool := false
  deriving DecidableEq, Repr

/-- Which lines are kept of those that follow one another and are equal. -/
structure MergeStyle where
  counted : Bool := false
  /-- Only lines that are repeated. -/
  onlyRepeated : Bool := false
  /-- Only lines that are not repeated. -/
  onlySingle : Bool := false
  ignoresCase : Bool := false
  deriving DecidableEq, Repr

/-- Which fields or characters of a line are kept. -/
structure CutStyle where
  /-- Ranges of positions from one on; the second may be open. -/
  ranges : List (Nat × Option Nat)
  /-- What separates fields, if fields are meant. -/
  separator : Option UInt8
  /-- Are lines without a separator left out? -/
  onlySeparated : Bool := false
  deriving DecidableEq, Repr

/-- What is made of everything that was read. -/
inductive Summary where
  /-- All but the first lines or bytes, or the last ones of them. -/
  | tail (lines fromStart : Bool) (count : Nat)
  /-- All but the last lines or bytes. -/
  | allBut (lines : Bool) (count : Nat)
  | sort (style : SortStyle)
  | reverseLines
  | turnLines
  | mergeLines (style : MergeStyle)
  | cut (style : CutStyle)
  deriving Repr

/-- A letter as a capital. -/
def upper (b : UInt8) : UInt8 := if 97 ≤ b && b ≤ 122 then b - 32 else b

/-- A line without its end, and its end. -/
def splitEnd (line : Bytes) : Bytes × Bytes :=
  if line.getLast? = some Bytes.newline then (line.dropLast, [Bytes.newline]) else (line, [])

namespace SortStyle

/-- A blank in front of a number. -/
def isBlankByte (b : UInt8) : Bool := b == 32 || b == 9

/-- The numeric value at the front of a line. -/
def leadingInt (line : Bytes) : Int :=
  let t := Text.ofBytes (line.dropWhile isBlankByte)
  let (negative, t) := match t with
    | '-' :: rest => (true, rest)
    | _ => (false, t)
  let n : Int := ((Text.toNat? (t.takeWhile Char.isDigit)).getD 0 : Nat)
  if negative then -n else n

/-- What of a line counts for its place. -/
def key (s : SortStyle) (line : Bytes) : Bytes :=
  let line := line.filter (· != Bytes.newline)
  let line := if s.ignoresBlanks then line.dropWhile isBlankByte else line
  if s.ignoresCase then line.map upper else line

/-- The order of two lines by what counts in them. -/
def compareKeys (s : SortStyle) (a b : Bytes) : Ordering :=
  if s.numeric then compare (leadingInt a) (leadingInt b)
  else
    let (a, b) := (s.key a, s.key b)
    if a = b then .eq else if a < b then .lt else .gt

/-- Does a line come before another or at the same place? Lines in which the same counts are put in
the order of all their bytes, unless only one of them is kept. -/
def ordered (s : SortStyle) (a b : Bytes) : Bool :=
  let order : Ordering := match s.compareKeys a b with
    | .eq => if s.unique then .eq else if a = b then .eq else if a < b then .lt else .gt
    | order => order
  order = .eq || (order = .lt) != s.reversed

end SortStyle

namespace CutStyle

/-- Is a position in one of the ranges? -/
def keeps (c : CutStyle) (position : Nat) : Bool :=
  c.ranges.any fun (first, last) => first ≤ position && last.all (position ≤ ·)

/-- The parts of a line that are kept, or nothing if the line is left out. -/
def line (c : CutStyle) (line : Bytes) : Bytes :=
  let kept {α : Type} (xs : List α) : List α :=
    (xs.zipIdx.filter fun x => c.keeps (x.2 + 1)).map (·.1)
  let content := (splitEnd line).1
  match c.separator with
  | none => kept content ++ [Bytes.newline]
  | some b =>
    if content.contains b then
      let fields := (Text.pieces (Char.ofNat b.toNat) (Text.ofBytes content)).map Text.toBytes
      [b].intercalate (kept fields) ++ [Bytes.newline]
    else if c.onlySeparated then []
    else content ++ [Bytes.newline]

end CutStyle

namespace Summary

/-- Lines with a newline at the end of each. -/
def endedLines (data : Bytes) : List Bytes :=
  (Bytes.lines data).map fun l =>
    if l.getLast? = some Bytes.newline then l else l ++ [Bytes.newline]

/-- Runs of lines in which the same counts: the first line of each, and how many there are. -/
def runs (isSame : Bytes → Bytes → Bool) (lines : List Bytes) : List (Bytes × Nat) :=
  (lines.foldl (fun acc l => match acc with
    | (m, n) :: rest => if isSame m l then (m, n + 1) :: rest else (l, 1) :: acc
    | [] => [(l, 1)]) []).reverse

def pad (width : Nat) (t : Text) : Text := List.replicate (width - t.length) ' ' ++ t

/-- What is written for all that was read. -/
def result (data : Bytes) : Summary → Bytes
  | .tail true fromStart n =>
    let ls := Bytes.lines data
    (if fromStart then ls.drop (n - 1) else ls.drop (ls.length - n)).flatten
  | .tail false fromStart n => data.drop (if fromStart then n - 1 else data.length - n)
  | .allBut true n =>
    let ls := Bytes.lines data
    (ls.take (ls.length - n)).flatten
  | .allBut false n => data.take (data.length - n)
  | .sort style =>
    let sorted := (endedLines data).mergeSort style.ordered
    if style.unique then
      ((runs (fun a b => style.compareKeys a b == .eq) sorted).map (·.1)).flatten
    else sorted.flatten
  | .reverseLines => (Bytes.lines data).reverse.flatten
  | .turnLines =>
    ((Bytes.lines data).map fun l =>
      let (content, ending) := splitEnd l
      content.reverse ++ ending).flatten
  | .mergeLines style =>
    let isSame (a b : Bytes) : Bool :=
      if style.ignoresCase then a.map upper == b.map upper else a == b
    ((runs isSame (endedLines data)).map fun (l, n) =>
      if (style.onlyRepeated && n = 1) || (style.onlySingle && 1 < n) then []
      else if style.counted then Text.toBytes (pad 7 (.ofNat n) ++ [' ']) ++ l
      else l).flatten
  | .cut style => ((Bytes.lines data).map style.line).flatten

end Summary

end Rehearsal.Machine
