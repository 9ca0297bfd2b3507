import Rehearsal.Regex.Matching
import Rehearsal.Regex.Reader

/-!
# The meaning of a regular expression

What is written becomes something to be matched, under the flags that hold where it is written.
Flags hold from where they are written to the end of the group, also across its alternatives.

By default an expression is about characters of Unicode. No tables of Unicode are at hand, so what
would need them is refused: the named classes, properties, word boundaries, and ignoring case. With
the flag `u` switched off all these are about ASCII; but then nothing may match a part of a
character, so a class must lie within ASCII.
-/

namespace Rehearsal.Regex

/-- The flags that hold at a place. -/
structure Modes where
  ignoreCase : Bool := false
  multiLine : Bool := false
  dotAll : Bool := false
  unicode : Bool := true
  anyNewline : Bool := false

namespace Modes

def switch (m : Modes) (f : Flag × Bool) : Modes :=
  match f.1 with
  | .ignoreCase => { m with ignoreCase := f.2 }
  | .multiLine => { m with multiLine := f.2 }
  | .dotAll => { m with dotAll := f.2 }
  | .unicode => { m with unicode := f.2 }
  | .anyNewline => { m with anyNewline := f.2 }
  | .swapGreed | .ignoreSpace => m

/-- The greatest number that a class turned around reaches up to. -/
def top (m : Modes) : Nat := if m.unicode then 0x10ffff else 255

end Modes

/-- What a part of an expression means, or what is wrong with it. -/
abbrev Result := Except Fault

/-- Something wrong at a span. -/
def refuse {α : Type} (complaint : Complaint) (span : Span) : Result α :=
  .error ⟨complaint, span, none⟩

/-- A character as it is matched. Written as a byte it must be in ASCII when bytes are meant. -/
def Literal.meaning (m : Modes) (l : Literal) : Result Char :=
  if !m.unicode && l.asByte && 128 ≤ l.char.toNat then refuse .notText l.span else .ok l.char

/-- The number of a character in a class. -/
def Literal.inClass (m : Modes) (l : Literal) : Result Nat := do
  let c ← l.meaning m
  if !m.unicode && 128 ≤ c.toNat then refuse .beyondAscii l.span else return c.toNat

/-- A class with the letters of the other case, if case is ignored. -/
def foldClass (m : Modes) (span : Span) (s : CharSet) : Result CharSet :=
  if !m.ignoreCase then .ok s
  else if !m.unicode then .ok s.foldCase
  else if s.isEmpty then .ok s
  else refuse .caseUnavailable span

/-- A class as it stands in brackets: case ignored, then turned around, then tested. -/
def finishClass (m : Modes) (negated : Bool) (span : Span) (s : CharSet) : Result CharSet := do
  let s ← foldClass m span s
  let s := if negated then s.complement m.top else s
  if !m.unicode && !s.isAscii then refuse .notText span else return s

/-- The characters of a named class in ASCII. -/
def NamedClass.ranges : NamedClass → CharSet
  | .digit => [(48, 57)]
  | .space => [(9, 13), (32, 32)]
  | .word => [(48, 57), (65, 90), (95, 95), (97, 122)]

/-- The name of a property without case, blanks, dashes and a leading `is`. -/
def simpleName (name : List Char) : String :=
  let name := name.map Char.toLower
  let name := if "is".toList.isPrefixOf name then name.drop 2 else name
  String.ofList (name.filter fun c => c.toNat < 128 && c != ' ' && c != '_' && c != '-')

/-- No property is known. A few names are looked for among the values of a property only. -/
def refuseProperty {α : Type} (m : Modes) (name : List Char) (span : Span) : Result α :=
  if !m.unicode then refuse .beyondAscii span
  else if ["cf", "sc", "lc"].contains (simpleName name) then refuse .propertyValueUnknown span
  else refuse .propertyUnknown span

/-- The characters of a class. -/
def CharClass.meaning (m : Modes) : CharClass → Result CharSet
  | .nothing _ => return []
  | .literal l => do
    let n ← l.inClass m
    return [(n, n)]
  | .range first last _ => do return [(← first.inClass m, ← last.inClass m)]
  | .listed ranges negated span => finishClass m negated span ranges
  | .named kind negated span =>
    if m.unicode then refuse .namedClassUnavailable span
    else if negated then refuse .notText span
    else return kind.ranges
  | .property name span => refuseProperty m name span
  | .bracketed body negated span => do finishClass m negated span (← body.meaning m)
  | .union a b => do
    let s ← a.meaning m
    return s ++ (← b.meaning m)
  | .combined operator a b => do
    let s ← a.meaning m
    let t ← b.meaning m
    let t ← foldClass m b.span t
    let s ← foldClass m a.span s
    return match operator with
      | .intersection => s.inter t
      | .difference => s.difference m.top t
      | .symmetricDifference => s.symmetricDifference m.top t

/-- The condition that an anchor is under some flags. -/
def Anchor.look (m : Modes) : Anchor → Look
  | .lineStart =>
    if m.multiLine then if m.anyNewline then .newlineStart else .lineStart else .textStart
  | .lineEnd =>
    if m.multiLine then if m.anyNewline then .newlineEnd else .lineEnd else .textEnd
  | .textStart => .textStart
  | .textEnd => .textEnd
  | .wordBoundary => .wordBoundary
  | .notWordBoundary => .notWordBoundary
  | .wordStart => .wordStart
  | .wordEnd => .wordEnd
  | .wordStartHalf => .wordStartHalf
  | .wordEndHalf => .wordEndHalf

/-- Is this a condition on words? -/
def Anchor.isAboutWords : Anchor → Bool
  | .lineStart | .lineEnd | .textStart | .textEnd => false
  | _ => true

/-- What an expression is to a matcher, how many states an automaton for it has, and whether it
asks for words of Unicode. -/
structure Meaning where
  matcher : Matcher
  states : Nat
  asksForWords : Bool := false

namespace Meaning

/-- One character of a set. -/
def one (s : CharSet) : Meaning := ⟨.one s, if s.isAscii then 2 else 12, false⟩

def seq (a b : Meaning) : Meaning :=
  ⟨.seq a.matcher b.matcher, a.states + b.states, a.asksForWords || b.asksForWords⟩

def either (a b : Meaning) : Meaning :=
  ⟨.either a.matcher b.matcher, a.states + b.states + 1, a.asksForWords || b.asksForWords⟩

/-- What is repeated never is nothing. -/
def repeated (least : Nat) (most : Option Nat) (a : Meaning) : Meaning :=
  if most = some 0 then ⟨.empty, 1, false⟩
  else
    let states := match most with
      | none => a.states * max 1 least + 1
      | some most => a.states * least + (a.states + 1) * (most - least) + 1
    ⟨.repeated least most a.matcher, states, a.asksForWords⟩

end Meaning

/-- The meaning of an expression, and the flags that hold after it. -/
def Expression.meaning : Expression → Modes → Result (Meaning × Modes)
  | .empty, m => return (⟨.empty, 1, false⟩, m)
  | .flags fs, m => return (⟨.empty, 1, false⟩, fs.foldl Modes.switch m)
  | .literal l, m => do
    let c ← l.meaning m
    let set : CharSet := [(c.toNat, c.toNat)]
    if !m.ignoreCase then return (⟨.one set, c.utf8Size, false⟩, m)
    else if m.unicode then refuse .caseUnavailable l.span
    else return (.one set.foldCase, m)
  | .dot span, m =>
    if !m.unicode then refuse .notText span
    else
      let newlines : CharSet :=
        if m.dotAll then [] else if m.anyNewline then [(10, 10), (13, 13)] else [(10, 10)]
      return (.one (newlines.complement m.top), m)
  | .anchor a _, m =>
    return (⟨.look (a.look m), 1, m.unicode && a.isAboutWords⟩, m)
  | .charClass c, m => do return (.one (← c.meaning m), m)
  | .repeated least most e, m => do
    let (a, m) ← e.meaning m
    return (a.repeated least most, m)
  | .group fs captures e, m => do
    let (a, _) ← e.meaning (fs.foldl Modes.switch m)
    return ({ a with states := a.states + if captures then 2 else 0 }, m)
  | .seq a b, m => do
    let (a, m) ← a.meaning m
    let (b, m) ← b.meaning m
    return (a.seq b, m)
  | .either a b, m => do
    let (a, m) ← a.meaning m
    let (b, m) ← b.meaning m
    return (a.either b, m)

/-- The most states that an automaton may have. -/
def maxStates : Nat := 327670

/-- Why an expression cannot be used. -/
inductive Refusal where
  | fault (f : Fault)
  | tooLarge
  | asksForWords

/-- The text of a refusal. -/
def Refusal.message (pattern : String) : Refusal → String
  | .fault f => f.message pattern
  | .tooLarge => "Compiled regex exceeds size limit of 10485760 bytes."
  | .asksForWords => "error building NFA"

/-- The matcher that a text writes. -/
def Matcher.read (pattern : String) : Except Refusal Matcher := do
  let e ← (Expression.read pattern).mapError .fault
  let (meaning, _) ← (e.meaning {}).mapError .fault
  if maxStates < meaning.states then throw .tooLarge
  if meaning.asksForWords then throw .asksForWords
  return meaning.matcher

end Rehearsal.Regex
