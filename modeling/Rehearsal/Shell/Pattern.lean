import Rehearsal.Shell.Word

/-!
# Patterns of the shell

A pattern fits a text as a whole. A star stands for any text, a question mark for one character,
and brackets for one of some characters. Quoted characters stand for themselves, so a pattern is
made of characters that know whether they are quoted.
-/

namespace Rehearsal.Shell

/-- A character and whether it is quoted. -/
abbrev Glyph := Char × Bool

/-- A piece of a pattern. -/
inductive PatternItem where
  | exactly (c : Char)
  | anyChar
  | anyText
  /-- One character that is in one of these ranges, or in none of them. -/
  | oneOf (negated : Bool) (ranges : List (Char × Char))
  deriving DecidableEq, Repr

namespace PatternItem

/-- Does this piece fit a character? -/
def fits (c : Char) : PatternItem → Bool
  | .exactly d => c == d
  | .anyChar | .anyText => true
  | .oneOf negated ranges => negated != ranges.any fun (a, b) => a ≤ c && c ≤ b

end PatternItem

/-- A pattern. -/
abbrev Pattern := List PatternItem

namespace Pattern

/-- The named classes of characters. -/
def classRanges (name : String) : List (Char × Char) :=
  match name with
  | "digit" => [('0', '9')]
  | "lower" => [('a', 'z')]
  | "upper" => [('A', 'Z')]
  | "alpha" => [('a', 'z'), ('A', 'Z')]
  | "alnum" => [('a', 'z'), ('A', 'Z'), ('0', '9')]
  | "space" => [('\t', '\r'), (' ', ' ')]
  | "blank" => [('\t', '\t'), (' ', ' ')]
  | "punct" => [('!', '/'), (':', '@'), ('[', '\x60'), ('\x7b', '~')]
  | "print" => [(' ', '~')]
  | "graph" => [('!', '~')]
  | "cntrl" => [('\x00', '\x1f'), ('\x7f', '\x7f')]
  | "xdigit" => [('0', '9'), ('a', 'f'), ('A', 'F')]
  | _ => []

/-- The characters of a bracket expression up to its end, and the text after it. -/
def readRanges : Nat → Bool → List Glyph → Option (List (Char × Char) × List Glyph)
  | 0, _, _ => none
  | _ + 1, _, [] => none
  | fuel + 1, first, (c, quoted) :: rest =>
    if c = ']' && !quoted && !first then some ([], rest)
    else
      let class? : Option (String × List Glyph) := match rest with
        | (':', _) :: rest =>
          let name := rest.takeWhile (·.1.isAlpha)
          match rest.drop name.length with
          | (':', _) :: (']', _) :: rest => some (String.ofList (name.map (·.1)), rest)
          | _ => none
        | _ => none
      match if c = '[' && !quoted then class? else none with
      | some (name, rest) =>
        (readRanges fuel false rest).map fun (rs, rest) => (classRanges name ++ rs, rest)
      | none =>
        match rest with
        | ('-', false) :: (d, dQuoted) :: rest' =>
          if d = ']' && !dQuoted then
            (readRanges fuel false rest).map fun (rs, rest) => ((c, c) :: rs, rest)
          else (readRanges fuel false rest').map fun (rs, rest) => ((c, d) :: rs, rest)
        | _ => (readRanges fuel false rest).map fun (rs, rest) => ((c, c) :: rs, rest)

/-- The pattern that some glyphs make. -/
def ofGlyphs : Nat → List Glyph → Pattern
  | 0, _ => []
  | _ + 1, [] => []
  | fuel + 1, (c, quoted) :: rest =>
    if quoted then .exactly c :: ofGlyphs fuel rest
    else if c = '\\' then
      match rest with
      | (d, _) :: rest => .exactly d :: ofGlyphs fuel rest
      | [] => [.exactly c]
    else if c = '*' then .anyText :: ofGlyphs fuel rest
    else if c = '?' then .anyChar :: ofGlyphs fuel rest
    else if c = '[' then
      let (negated, body) := match rest with
        | ('!', false) :: body | ('^', false) :: body => (true, body)
        | body => (false, body)
      match readRanges (body.length + 1) true body with
      | some (ranges, rest) => .oneOf negated ranges :: ofGlyphs fuel rest
      | none => .exactly c :: ofGlyphs fuel rest
    else .exactly c :: ofGlyphs fuel rest

/-- The pattern that some glyphs make. -/
def read (glyphs : List Glyph) : Pattern := ofGlyphs (glyphs.length + 1) glyphs

/-- Does a pattern fit a text? -/
def fits : Pattern → Text → Bool
  | [], t => t.isEmpty
  | .anyText :: p, [] => fits p []
  | .anyText :: p, c :: t => fits p (c :: t) || fits (.anyText :: p) t
  | _ :: _, [] => false
  | item :: p, c :: t => item.fits c && fits p t
termination_by p t => p.length + t.length

/-- The text without its shortest or longest beginning that a pattern fits. -/
def dropStart (longest : Bool) (p : Pattern) (t : Text) : Text :=
  let lengths := List.range (t.length + 1)
  let lengths := if longest then lengths.reverse else lengths
  match lengths.find? fun n => p.fits (t.take n) with
  | some n => t.drop n
  | none => t

/-- The text without its shortest or longest end that a pattern fits. -/
def dropEnd (longest : Bool) (p : Pattern) (t : Text) : Text :=
  let lengths := List.range (t.length + 1)
  let lengths := if longest then lengths else lengths.reverse
  match lengths.find? fun n => p.fits (t.drop n) with
  | some n => t.take n
  | none => t

/-- Is there anything in these glyphs that does not stand for one character? A backslash takes its
meaning from what follows it. -/
def hasWildcard : List Glyph → Bool
  | [] => false
  | ('\\', false) :: _ :: rest => hasWildcard rest
  | (c, quoted) :: rest =>
    (!quoted && (c == '*' || c == '?' || c == '[')) || hasWildcard rest

/-- The text of glyphs that stand for one character each. -/
def plainText : List Glyph → Text
  | [] => []
  | ('\\', false) :: (c, _) :: rest => c :: plainText rest
  | (c, _) :: rest => c :: plainText rest

end Pattern

end Rehearsal.Shell
