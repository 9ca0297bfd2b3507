import Rehearsal.Shell.Memory
import Rehearsal.Shell.Pattern

/-!
# Lines that are read into variables

A line is taken up character by character, since a backslash may hide its end. Its fields are then
handed out to variables, and the last variable gets all that is left.
-/

namespace Rehearsal.Shell

/-- A line that is being read. -/
structure InputLine where
  /-- The characters so far, the last one first; those that a backslash hid are quoted. -/
  glyphs : List Glyph := []
  /-- Is the next character hidden by a backslash? -/
  hides : Bool := false
  isOver : Bool := false

namespace InputLine

/-- Take one more character. Backslashes may stand for themselves. -/
def take (raw : Bool) (l : InputLine) (c : Char) : InputLine :=
  if l.isOver || c = '\x00' then l
  else if l.hides then
    { l with glyphs := if c = '\n' then l.glyphs else (c, true) :: l.glyphs, hides := false }
  else if c = '\n' then { l with isOver := true }
  else if !raw && c = '\\' then { l with hides := true }
  else { l with glyphs := (c, false) :: l.glyphs }

/-- Take more text. -/
def takeAll (raw : Bool) (l : InputLine) (t : Text) : InputLine := t.foldl (take raw) l

/-- Does a character separate fields? -/
def separates (separators : Text) (g : Glyph) : Bool := !g.2 && separators.contains g.1

/-- Does a character separate fields however often it stands? -/
def isBlank (separators : Text) (g : Glyph) : Bool := separates separators g && g.1.isWhitespace

def trimEnd (separators : Text) (line : List Glyph) : List Glyph :=
  (line.reverse.dropWhile (isBlank separators)).reverse

/-- All that is left of a line. If it is one field, what ends the field does not count. -/
def lastField (separators : Text) (line : List Glyph) : List Glyph :=
  let line := trimEnd separators line
  match line.getLast? with
  | none => []
  | some g =>
    let before := trimEnd separators line.dropLast
    if separates separators g && !before.any (separates separators) then before else line

/-- Cut a line into so many fields. -/
def fields (separators : Text) : Nat → List Glyph → List (List Glyph)
  | 0, _ => []
  | n + 1, line =>
    let line := line.dropWhile (isBlank separators)
    if n = 0 then [lastField separators line]
    else
      let field := line.takeWhile (!separates separators ·)
      let rest := (line.dropWhile (!separates separators ·)).dropWhile (isBlank separators)
      let rest := match rest with
        | g :: more => if separates separators g then more else rest
        | [] => []
      field :: fields separators n rest

/-- The values that so many variables get. -/
def values (l : InputLine) (separators : Text) (n : Nat) : List Text :=
  (fields separators n l.glyphs.reverse).map textOf
where
  textOf (glyphs : List Glyph) : Text := glyphs.map (·.1)

end InputLine

end Rehearsal.Shell
