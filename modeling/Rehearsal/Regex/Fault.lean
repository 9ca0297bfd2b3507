/-!
# Faults of a regular expression

A fault says what is wrong and at which span of the written expression. Spans are pairs of places,
a place is a line and a column. `Fault.message` shows the expression with its spans underlined.
-/

namespace Rehearsal.Regex

/-- A place in a written expression: line and column, both counted from one. -/
structure Place where
  line : Nat
  column : Nat
  deriving DecidableEq, Repr, Inhabited

namespace Place

/-- The place after a character. -/
def after (p : Place) (c : Char) : Place :=
  if c = '\n' then ⟨p.line + 1, 1⟩ else ⟨p.line, p.column + 1⟩

/-- Is the first place before the second? -/
def before (a b : Place) : Bool := a.line < b.line || (a.line == b.line && a.column < b.column)

end Place

/-- The stretch between two places. -/
structure Span where
  start : Place
  stop : Place
  deriving DecidableEq, Repr, Inhabited

namespace Span

/-- The empty stretch at a place. -/
def point (p : Place) : Span := ⟨p, p⟩

/-- The stretch of one character. -/
def ofChar (p : Place) (c : Char) : Span := ⟨p, p.after c⟩

/-- Both stretches and what is between them. -/
def join (a b : Span) : Span := ⟨a.start, b.stop⟩

def isOneLine (s : Span) : Bool := s.start.line == s.stop.line

/-- Does the first stretch begin, or else end, before the second? -/
def before (a b : Span) : Bool :=
  a.start.before b.start || (a.start == b.start && a.stop.before b.stop)

end Span

/-- What is wrong with an expression. -/
inductive Complaint where
  | classEscape
  | classOrder
  | classLiteral
  | classUnclosed
  | decimalInvalid
  | hexEmpty
  | hexInvalid
  | hexDigit
  | escapeEnd
  | escapeUnknown
  | flagDangling
  | flagTwice
  | flagNegatedTwice
  | flagEnd
  | flagUnknown
  | nameTwice
  | nameEmpty
  | nameInvalid
  | nameUnclosed
  | groupUnclosed
  | groupUnopened
  | countOrder
  | countEmpty
  | countUnclosed
  | nothingToRepeat
  | boundaryUnclosed
  | boundaryUnknown
  | boundaryEnd
  | propertyInvalid
  | backreference
  | lookAround
  | beyondAscii
  | notText
  | propertyUnknown
  | propertyValueUnknown
  | namedClassUnavailable
  | caseUnavailable
  deriving DecidableEq, Repr

/-- The text of a complaint. -/
def Complaint.message : Complaint → String
  | .classEscape => "invalid escape sequence found in character class"
  | .classOrder => "invalid character class range, the start must be <= the end"
  | .classLiteral => "invalid range boundary, must be a literal"
  | .classUnclosed => "unclosed character class"
  | .decimalInvalid => "decimal literal invalid"
  | .hexEmpty => "hexadecimal literal empty"
  | .hexInvalid => "hexadecimal literal is not a Unicode scalar value"
  | .hexDigit => "invalid hexadecimal digit"
  | .escapeEnd => "incomplete escape sequence, reached end of pattern prematurely"
  | .escapeUnknown => "unrecognized escape sequence"
  | .flagDangling => "dangling flag negation operator"
  | .flagTwice => "duplicate flag"
  | .flagNegatedTwice => "flag negation operator repeated"
  | .flagEnd => "expected flag but got end of regex"
  | .flagUnknown => "unrecognized flag"
  | .nameTwice => "duplicate capture group name"
  | .nameEmpty => "empty capture group name"
  | .nameInvalid => "invalid capture group character"
  | .nameUnclosed => "unclosed capture group name"
  | .groupUnclosed => "unclosed group"
  | .groupUnopened => "unopened group"
  | .countOrder => "invalid repetition count range, the start must be <= the end"
  | .countEmpty => "repetition quantifier expects a valid decimal"
  | .countUnclosed => "unclosed counted repetition"
  | .nothingToRepeat => "repetition operator missing expression"
  | .boundaryUnclosed =>
    "special word boundary assertion is either unclosed or contains an invalid character"
  | .boundaryUnknown =>
    "unrecognized special word boundary assertion, " ++
      "valid choices are: start, end, start-half or end-half"
  | .boundaryEnd =>
    "found either the beginning of a special word boundary or a bounded repetition on a \\b " ++
      "with an opening brace, but no closing brace"
  | .propertyInvalid => "invalid Unicode character class"
  | .backreference => "backreferences are not supported"
  | .lookAround => "look-around, including look-ahead and look-behind, is not supported"
  | .beyondAscii => "Unicode not allowed here"
  | .notText => "pattern can match invalid UTF-8"
  | .propertyUnknown => "Unicode property not found"
  | .propertyValueUnknown => "Unicode property value not found"
  | .namedClassUnavailable =>
    "Unicode-aware Perl class not found (make sure the unicode-perl feature is enabled)"
  | .caseUnavailable =>
    "Unicode-aware case insensitivity matching is not available " ++
      "(make sure the unicode-case feature is enabled)"

/-- A complaint and the span that it is about; some faults point at a second span. -/
structure Fault where
  complaint : Complaint
  span : Span
  second : Option Span := none
  deriving DecidableEq, Repr

namespace Fault

/-- The lines of a text, without the ends of the lines. A text that ends in a newline has no empty
line after it. -/
def linesOf (text : String) : List String :=
  let pieces := text.splitOn "\n"
  let pieces := if pieces.getLast? == some "" then pieces.dropLast else pieces
  let strip (piece : String) : String :=
    match piece.toList.reverse with
    | '\r' :: rest => String.ofList rest.reverse
    | _ => piece
  if text.endsWith "\n" then pieces.map strip
  else pieces.dropLast.map strip ++ pieces.getLast?.toList

/-- The marks under one line: a caret for each column of its spans, at least one for each. -/
def marks (spans : List Span) : String :=
  let add (done : String) (s : Span) : String :=
    done ++ "".pushn ' ' (s.start.column - 1 - done.length) ++
      "".pushn '^' (max 1 (s.stop.column - s.start.column))
  spans.foldl add ""

/-- The spans of a fault, the first first. -/
def spans (f : Fault) : List Span :=
  match f.second with
  | none => [f.span]
  | some s => if s.before f.span then [s, f.span] else [f.span, s]

/-- The lines of the expression, each with the marks of its spans under it. Lines are numbered if
there are several. -/
def notes (pattern : String) (f : Fault) : String :=
  let lines := linesOf pattern
  let count := lines.length + if pattern.endsWith "\n" then 1 else 0
  let width := if count ≤ 1 then 0 else (toString count).length
  let margin := if width = 0 then 4 else width + 2
  let note (i : Nat) (line : String) : String :=
    let number := toString (i + 1)
    let head :=
      if width = 0 then "    " else "".pushn ' ' (width - number.length) ++ number ++ ": "
    let here := f.spans.filter fun s => s.isOneLine && s.start.line == i + 1
    head ++ line ++ "\n" ++
      if here.isEmpty then "" else "".pushn ' ' margin ++ marks here ++ "\n"
  String.join (lines.mapIdx note)

/-- A fault as it is told. -/
def message (pattern : String) (f : Fault) : String :=
  let error := "error: " ++ f.complaint.message
  if !pattern.contains '\n' then "regex parse error:\n" ++ notes pattern f ++ error
  else
    let divider := "".pushn '~' 79 ++ "\n"
    let long := f.spans.filter (!·.isOneLine)
    let extent (s : Span) : String :=
      s!"on line {s.start.line} (column {s.start.column}) through line {s.stop.line} " ++
        s!"(column {s.stop.column - 1})"
    "regex parse error:\n" ++ divider ++ notes pattern f ++ divider ++
      (if long.isEmpty then "" else "\n".intercalate (long.map extent) ++ "\n") ++ error

end Fault

end Rehearsal.Regex
