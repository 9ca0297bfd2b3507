import Rehearsal.Regex.Fault

/-!
# Regular expressions as they are written

An expression is a tree of what its writer put down, with the spans that a later fault may point
at. Flags stand where they were written; what they mean is decided in `Regex.Meaning`.
-/

namespace Rehearsal.Regex

/-- A switch that changes how an expression is read. -/
inductive Flag where
  | ignoreCase
  | multiLine
  | dotAll
  | swapGreed
  | unicode
  | anyNewline
  | ignoreSpace
  deriving DecidableEq, Repr

/-- Flags and whether each is switched on. -/
abbrev Flags := List (Flag × Bool)

/-- A character that stands for itself. It may have been written as a byte in hexadecimal. -/
structure Literal where
  char : Char
  asByte : Bool := false
  span : Span
  deriving DecidableEq, Repr

/-- A class of characters with a letter for its name. -/
inductive NamedClass where
  | digit
  | space
  | word
  deriving DecidableEq, Repr

/-- How two sets of characters are combined. -/
inductive SetOperator where
  | intersection
  | difference
  | symmetricDifference
  deriving DecidableEq, Repr

/-- A set of characters. -/
inductive CharClass where
  | nothing (span : Span)
  | literal (l : Literal)
  | range (first last : Literal) (span : Span)
  /-- A class that is listed in full, such as `[:alpha:]`. -/
  | listed (ranges : List (Nat × Nat)) (negated : Bool) (span : Span)
  | named (kind : NamedClass) (negated : Bool) (span : Span)
  | property (name : List Char) (span : Span)
  | bracketed (body : CharClass) (negated : Bool) (span : Span)
  | union (a b : CharClass)
  | combined (operator : SetOperator) (a b : CharClass)
  deriving Repr

/-- Where a set of characters is written. -/
def CharClass.span : CharClass → Span
  | .nothing span => span
  | .literal l => l.span
  | .range _ _ span => span
  | .listed _ _ span => span
  | .named _ _ span => span
  | .property _ span => span
  | .bracketed _ _ span => span
  | .union a b => a.span.join b.span
  | .combined _ a b => a.span.join b.span

/-- A condition on a place between two characters. -/
inductive Anchor where
  | lineStart
  | lineEnd
  | textStart
  | textEnd
  | wordBoundary
  | notWordBoundary
  | wordStart
  | wordEnd
  | wordStartHalf
  | wordEndHalf
  deriving DecidableEq, Repr

/-- A regular expression. -/
inductive Expression where
  | empty
  | flags (fs : Flags)
  | literal (l : Literal)
  | dot (span : Span)
  | anchor (a : Anchor) (span : Span)
  | charClass (c : CharClass)
  | repeated (least : Nat) (most : Option Nat) (e : Expression)
  /-- A group, which may switch flags for what is in it. -/
  | group (fs : Flags) (captures : Bool) (e : Expression)
  | seq (a b : Expression)
  | either (a b : Expression)
  deriving Repr

/-- Something to be matched, one after the other. -/
def Expression.seqAll : List Expression → Expression
  | [] => .empty
  | [e] => e
  | e :: es => .seq e (seqAll es)

/-- One of these. -/
def Expression.eitherAll : List Expression → Expression
  | [] => .empty
  | [e] => e
  | e :: es => .either e (eitherAll es)

end Rehearsal.Regex
