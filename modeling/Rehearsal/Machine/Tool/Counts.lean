import Rehearsal.Shell.Word

/-!
# Counts of lines, words and bytes

The counts of a text, and how a line of them is written: which counts, at which width, and the name
of what was counted.
-/

namespace Rehearsal.Machine

open Shell (Text)

/-- What is counted, and how wide a count is written. -/
structure CountStyle where
  lines : Bool := false
  words : Bool := false
  bytes : Bool := false
  /-- The length of the longest line. -/
  longest : Bool := false
  width : Nat := 1
  deriving DecidableEq, Repr

/-- What has been counted. -/
structure Counts where
  lines : Nat := 0
  words : Nat := 0
  bytes : Nat := 0
  longest : Nat := 0
  deriving DecidableEq, Repr

namespace Counts

/-- A byte between words. -/
def isBlank (b : UInt8) : Bool := b == 32 || (9 ≤ b && b ≤ 13)

/-- How many words there are. Bytes that cannot be seen neither make a word nor end one. -/
def wordsIn (data : Bytes) : Nat :=
  (data.foldl (fun (n, inside) b =>
    if isBlank b then (n, false)
    else if 33 ≤ b && b ≤ 126 then (if inside then n else n + 1, true)
    else (n, inside)) (0, false)).1

/-- How wide a line is when it is shown: a tab goes on to the next multiple of eight. -/
def widthOf (line : Bytes) : Nat :=
  (line.foldl (fun (best, now) b =>
    let now := if b = 13 || b = 12 then 0 else if b = 9 then now + 8 - now % 8
      else if 32 ≤ b && b ≤ 126 then now + 1 else now
    (max best now, now)) (0, 0)).1

/-- The counts of a text. -/
def ofBytes (data : Bytes) : Counts where
  lines := data.count Bytes.newline
  words := wordsIn data
  bytes := data.length
  longest := (Bytes.lines data).foldl (fun n l => max n (widthOf l)) 0

/-- The counts of two texts together. -/
def add (a b : Counts) : Counts where
  lines := a.lines + b.lines
  words := a.words + b.words
  bytes := a.bytes + b.bytes
  longest := max a.longest b.longest

/-- A line with counts and the name of what was counted. -/
def line (style : CountStyle) (c : Counts) (name : Option Text) : Text :=
  let all := [(style.lines, c.lines), (style.words, c.words), (style.bytes, c.bytes),
    (style.longest, c.longest)]
  let shown := all.filterMap fun (wanted, n) => if wanted then some (Text.ofNat n) else none
  let padded := shown.map fun t => List.replicate (style.width - t.length) ' ' ++ t
  [' '].intercalate padded ++ (name.map (' ' :: ·)).getD [] ++ ['\n']

end Counts

end Rehearsal.Machine
