import Rehearsal.Regex.Expression
import Rehearsal.Text.Unshown

/-!
# Reading a regular expression

A reader takes characters off the front of the written expression and knows the place it has
reached. Every step of a repetition takes a character, so the number of characters bounds it.
Where blanks are switched off, most readers pass over blanks and comments after a character.
-/

namespace Rehearsal.Regex

/-- What is left of an expression, and what has been seen of it. -/
structure Reading where
  rest : List Char
  place : Place := ⟨1, 1⟩
  /-- Are blanks and comments passed over? -/
  spaced : Bool := false
  /-- The names given to groups. -/
  names : List (List Char × Span) := []

/-- Something read off the front of an expression. -/
abbrev Reader := StateT Reading (Except Fault)

namespace Reader

/-- Pass over blanks and comments; the mark says that a comment is under way. -/
def skipSpace : Bool → List Char → Place → List Char × Place
  | _, [], p => ([], p)
  | true, c :: r, p => skipSpace (c != '\n') r (p.after c)
  | false, c :: r, p =>
    if isBlank c then skipSpace false r (p.after c)
    else if c = '#' then skipSpace true r (p.after c)
    else (c :: r, p)

/-- The first character that is not blank. A hash before it is passed over too. -/
def firstSolid : Bool → List Char → Option Char
  | _, [] => none
  | hash, c :: r =>
    if isBlank c then firstSolid hash r
    else if !hash && c == '#' then firstSolid true r
    else some c

def here : Reader Place := do return (← get).place

/-- The next character, left where it is. -/
def peek : Reader (Option Char) := do return (← get).rest.head?

def atEnd : Reader Bool := do return (← get).rest.isEmpty

/-- The stretch of the next character. -/
def spanChar : Reader Span := do
  let s ← get
  match s.rest with
  | c :: _ => return .ofChar s.place c
  | [] => return .point s.place

def fail {α : Type} (complaint : Complaint) (span : Span) (second : Option Span := none) :
    Reader α :=
  throw ⟨complaint, span, second⟩

/-- Fail at the place reached. -/
def failHere {α : Type} (complaint : Complaint) : Reader α := do
  fail complaint (.point (← here))

/-- Fail at the next character. -/
def failChar {α : Type} (complaint : Complaint) : Reader α := do
  fail complaint (← spanChar)

/-- Fail from a place on to the place reached. -/
def failSince {α : Type} (complaint : Complaint) (start : Place) : Reader α := do
  fail complaint ⟨start, ← here⟩

/-- Pass the next character. -/
def pass : Reader Unit := modify fun s =>
  match s.rest with
  | c :: r => { s with rest := r, place := s.place.after c }
  | [] => s

/-- Pass over blanks and comments, if they are switched off. -/
def passSpace : Reader Unit := modify fun s =>
  if s.spaced then
    let (rest, place) := skipSpace false s.rest s.place
    { s with rest, place }
  else s

/-- Pass the next character and the blanks after it. -/
def passBoth : Reader Unit := do
  pass
  passSpace

/-- Pass this text if it comes next. -/
def passIf (text : String) : Reader Bool := do
  let cs := text.toList
  if cs.isPrefixOf (← get).rest then
    for _ in cs do pass
    return true
  else return false

/-- The character after the next one, past blanks and comments if they are switched off. -/
def peekSecond : Reader (Option Char) := do
  let s ← get
  let rest := s.rest.drop 1
  return if s.spaced then firstSolid false rest <|> rest.head? else rest.head?

/-- More than the steps of a repetition that takes a character at each of them. -/
def bound : Reader Nat := do return (← get).rest.length + 1

/-- Take characters of a class, and the blanks after each. -/
def takeUpTo (p : Char → Bool) : Nat → Reader (List Char)
  | 0 => return []
  | fuel + 1 => do
    match ← peek with
    | some c =>
      if p c then
        passBoth
        return c :: (← takeUpTo p fuel)
      else return []
    | none => return []

/-- Take characters of a class, and the blanks after each. -/
def takeWhile (p : Char → Bool) : Reader (List Char) := do takeUpTo p (← bound)

/-- Go back to where a reading stood. -/
def goBack (s : Reading) : Reader Unit := set s

end Reader

open Reader

/-! ### Numbers -/

/-- The number that some digits write. -/
def numeral (base : Nat) (digits : List Char) : Nat :=
  let value (c : Char) : Nat :=
    if c.isDigit then c.toNat - '0'.toNat else c.toLower.toNat - 'a'.toNat + 10
  digits.foldl (fun n c => n * base + value c) 0

def isHexDigit (c : Char) : Bool :=
  c.isDigit || ('a' ≤ c && c ≤ 'f') || ('A' ≤ c && c ≤ 'F')

/-- The character with a number in hexadecimal. -/
def scalar? (digits : List Char) : Option Char :=
  let n := numeral 16 digits
  if n.isValidChar then some (Char.ofNat n) else none

/-- A count of a repetition, or what is wrong with it. Blanks may stand around it. -/
def count : Reader (Except Fault Nat) := do
  let s ← get
  let blanks := s.rest.takeWhile isBlank
  for _ in blanks do pass
  let start ← here
  let digits ← takeWhile Char.isDigit
  let span : Span := ⟨start, ← here⟩
  let _ ← takeWhile isBlank
  return if digits.isEmpty then .error ⟨.countEmpty, span, none⟩
  else
    let n := numeral 10 digits
    if n < 0x100000000 then .ok n else .error ⟨.decimalInvalid, span, none⟩

/-! ### Escapes -/

/-- What a backslash and what follows it write. -/
inductive Escape where
  | literal (l : Literal)
  | named (kind : NamedClass) (negated : Bool) (span : Span)
  | property (name : List Char) (span : Span)
  | anchor (a : Anchor) (span : Span)

/-- The characters with a meaning of their own. -/
def isMeta (c : Char) : Bool := "\\.+*?()|[]\x7b\x7d^$#&-~".contains c

/-- The characters that a backslash makes stand for themselves. -/
def isEscapable (c : Char) : Bool :=
  isMeta c || (c.toNat < 128 && !c.isAlphanum && c != '<' && c != '>')

/-- Hexadecimal digits, a fixed number of them. -/
def hexDigits : Nat → Bool → Reader (List Char)
  | 0, _ => return []
  | n + 1, first => do
    if !first then
      passBoth
      if ← atEnd then failHere .escapeEnd
    match ← peek with
    | some c =>
      if isHexDigit c then return c :: (← hexDigits n false)
      else failChar .hexDigit
    | none => failHere .escapeEnd

/-- A character by its number, after the letter that says how many digits there are. -/
def hexLiteral (begin : Place) (letter : Char) : Reader Literal := do
  passBoth
  match ← peek with
  | none => failHere .escapeEnd
  | some '\x7b' =>
    let brace ← here
    let start := (← spanChar).stop
    passBoth
    let digits ← takeWhile isHexDigit
    match ← peek with
    | none => failSince .escapeEnd brace
    | some '\x7d' =>
      let stop ← here
      passBoth
      if digits.isEmpty then failSince .hexEmpty brace
      else match scalar? digits with
        | some c => return ⟨c, false, ⟨begin, ← here⟩⟩
        | none => fail .hexInvalid ⟨start, stop⟩
    | some _ => failChar .hexDigit
  | some _ =>
    let start ← here
    let digits ← hexDigits (if letter = 'x' then 2 else if letter = 'u' then 4 else 8) true
    passBoth
    let stop ← here
    match scalar? digits with
    | some c => return ⟨c, letter == 'x', ⟨begin, stop⟩⟩
    | none => fail .hexInvalid ⟨start, stop⟩

/-- The name of a property, after the letter that introduces it. -/
def propertyName : Reader (List Char) := do
  passBoth
  match ← peek with
  | none => failHere .escapeEnd
  | some '\x7b' =>
    passBoth
    let name ← takeWhile (· != '\x7d')
    if ← atEnd then failHere .escapeEnd
    pass
    return name
  | some '\\' => failChar .propertyInvalid
  | some c =>
    passBoth
    return [c]

/-- The special boundary of a word in braces, if there is one. -/
def specialBoundary (begin : Place) : Reader (Option Anchor) := do
  let isLetter (c : Char) : Bool := c.isAlpha || c == '-'
  let before ← get
  passBoth
  if ← atEnd then failSince .boundaryEnd begin
  let contents ← here
  match ← peek with
  | some c =>
    if !isLetter c then
      goBack before
      return none
    let name ← takeWhile isLetter
    if (← peek) != some '\x7d' then failSince .boundaryUnclosed before.place
    let stop ← here
    pass
    match String.ofList name with
    | "start" => return some .wordStart
    | "end" => return some .wordEnd
    | "start-half" => return some .wordStartHalf
    | "end-half" => return some .wordEndHalf
    | _ => fail .boundaryUnknown ⟨contents, stop⟩
  | none => return none

/-- The control character that a letter stands for after a backslash. -/
def controlChar? : Char → Option Char
  | 'a' => some '\x07'
  | 'f' => some '\x0c'
  | 't' => some '\t'
  | 'n' => some '\n'
  | 'r' => some '\r'
  | 'v' => some '\x0b'
  | _ => none

/-- The class that a letter stands for after a backslash, and whether it is turned around. -/
def namedClass? : Char → Option (NamedClass × Bool)
  | 'd' => some (.digit, false)
  | 's' => some (.space, false)
  | 'w' => some (.word, false)
  | 'D' => some (.digit, true)
  | 'S' => some (.space, true)
  | 'W' => some (.word, true)
  | _ => none

/-- The condition that a letter stands for after a backslash. -/
def anchor? : Char → Option Anchor
  | 'A' => some .textStart
  | 'z' => some .textEnd
  | 'b' => some .wordBoundary
  | 'B' => some .notWordBoundary
  | '<' => some .wordStart
  | '>' => some .wordEnd
  | _ => none

/-- A backslash and what follows it. -/
def escape : Reader Escape := do
  let start ← here
  pass
  match ← peek with
  | none => failSince .escapeEnd start
  | some c =>
    if c.isDigit then fail .backreference ⟨start, (← spanChar).stop⟩
    else if c = 'x' || c = 'u' || c = 'U' then return .literal (← hexLiteral start c)
    else if c = 'p' || c = 'P' then
      let name ← propertyName
      return .property name ⟨start, ← here⟩
    else
      pass
      let span : Span := ⟨start, ← here⟩
      match namedClass? c with
      | some (kind, negated) => return .named kind negated span
      | none =>
        if isEscapable c then return .literal ⟨c, false, span⟩
        else match controlChar? c, anchor? c with
          | some d, _ => return .literal ⟨d, false, span⟩
          | none, some a =>
            if c == 'b' && (← peek) == some '\x7b' then
              match ← specialBoundary start with
              | some special => return .anchor special ⟨start, ← here⟩
              | none => return .anchor a span
            else return .anchor a span
          | none, none => fail .escapeUnknown span

/-! ### Classes of characters -/

/-- The classes that are listed in full. -/
def listedClass? : String → Option (List (Nat × Nat))
  | "alnum" => some [(48, 57), (65, 90), (97, 122)]
  | "alpha" => some [(65, 90), (97, 122)]
  | "ascii" => some [(0, 127)]
  | "blank" => some [(9, 9), (32, 32)]
  | "cntrl" => some [(0, 31), (127, 127)]
  | "digit" => some [(48, 57)]
  | "graph" => some [(33, 126)]
  | "lower" => some [(97, 122)]
  | "print" => some [(32, 126)]
  | "punct" => some [(33, 47), (58, 64), (91, 96), (123, 126)]
  | "space" => some [(9, 13), (32, 32)]
  | "upper" => some [(65, 90)]
  | "word" => some [(48, 57), (65, 90), (95, 95), (97, 122)]
  | "xdigit" => some [(48, 57), (65, 70), (97, 102)]
  | _ => none

/-- A class between `[:` and `:]`, if there is one. -/
def listedClass : Reader (Option CharClass) := do
  let s ← get
  match s.rest with
  | '[' :: ':' :: rest =>
    let (negated, rest) := match rest with
      | '^' :: rest => (true, rest)
      | rest => (false, rest)
    let name := rest.takeWhile (· != ':')
    match listedClass? (String.ofList name), rest.drop name.length with
    | some ranges, ':' :: ']' :: _ =>
      for _ in List.range (name.length + (if negated then 5 else 4)) do pass
      return some (.listed ranges negated ⟨s.place, ← here⟩)
    | _, _ => return none
  | _ => return none

/-- One end of a range, or an item by itself. -/
def classItem : Reader Escape := do
  match ← peek with
  | some '\\' => escape
  | some c =>
    let span ← spanChar
    pass
    return .literal ⟨c, false, span⟩
  | none => failHere .classUnclosed

/-- An item of a class. -/
def Escape.toClass : Escape → Reader CharClass
  | .literal l => return .literal l
  | .named kind negated span => return .named kind negated span
  | .property name span => return .property name span
  | .anchor _ span => fail .classEscape span

/-- An end of a range. -/
def Escape.toLiteral : Escape → Reader Literal
  | .literal l => return l
  | .named _ _ span | .property _ span | .anchor _ span => fail .classLiteral span

/-- An item or a range, in a class that was opened at a span. -/
def classRange (opened : Span) : Reader CharClass := do
  let start ← here
  let first ← classItem
  passSpace
  if ← atEnd then fail .classUnclosed opened
  let second ← peekSecond
  if (← peek) != some '-' || second == some ']' || second == some '-' then first.toClass
  else
    passBoth
    if ← atEnd then fail .classUnclosed opened
    let last ← classItem
    let span : Span := ⟨start, match last with
      | .literal l => l.span.stop
      | .named _ _ span | .property _ span | .anchor _ span => span.stop⟩
    let first ← first.toLiteral
    let last ← last.toLiteral
    if last.char < first.char then fail .classOrder span
    return .range first last span

/-- Dashes at the beginning of a class, which stand for themselves. -/
def openingDashes (start : Place) : Nat → Reader (List CharClass)
  | 0 => return []
  | fuel + 1 => do
    if (← peek) == some '-' then
      let span ← spanChar
      passBoth
      if ← atEnd then fail .classUnclosed (.point start)
      return .literal ⟨'-', false, span⟩ :: (← openingDashes start fuel)
    else return []

/-- The beginning of a class: its span, whether it is turned around, and the dashes or the bracket
that it begins with. -/
def classOpening : Reader (Span × Bool × List CharClass) := do
  let start ← here
  let needMore : Reader Unit := do
    if ← atEnd then failSince .classUnclosed start
  passBoth
  needMore
  let negated := (← peek) == some '^'
  if negated then
    passBoth
    needMore
  let dashes ← openingDashes start (← bound)
  let first ← if dashes.isEmpty && (← peek) == some ']' then
      let span ← spanChar
      passBoth
      needMore
      pure [CharClass.literal ⟨']', false, span⟩]
    else pure dashes
  return (⟨start, ← here⟩, negated, first)

/-- Items of a class, the newest first, as one class. -/
def unionOf (place : Place) : List CharClass → CharClass
  | [] => .nothing (.point place)
  | c :: cs => cs.foldl (fun later earlier => .union earlier later) c

/-- What stood before an operator, and the operator. -/
abbrev LeftOperand := Option (CharClass × SetOperator)

/-- Combine what stands on the two sides of an operator. -/
def LeftOperand.close (left : LeftOperand) (right : CharClass) : CharClass :=
  match left with
  | some (a, operator) => .combined operator a right
  | none => right

/-- The operator of two characters that comes next. -/
def setOperator? : List Char → Option SetOperator
  | '&' :: '&' :: _ => some .intersection
  | '-' :: '-' :: _ => some .difference
  | '~' :: '~' :: _ => some .symmetricDifference
  | _ => none

mutual

/-- A class in brackets. -/
def bracketed : Nat → Reader CharClass
  | 0 => failHere .classUnclosed
  | fuel + 1 => do
    let start ← here
    let (opened, negated, first) ← classOpening
    let body ← classBody fuel opened none opened.stop first.reverse
    return .bracketed body negated ⟨start, ← here⟩

/-- The body of a class up to its closing bracket: what stands before the last operator, where the
items after it begin, and these items, the newest first. -/
def classBody : Nat → Span → LeftOperand → Place → List CharClass → Reader CharClass
  | 0, opened, _, _, _ => fail .classUnclosed opened
  | fuel + 1, opened, left, place, items => do
    passSpace
    let s ← get
    match s.rest with
    | [] => fail .classUnclosed opened
    | ']' :: _ =>
      let body := LeftOperand.close left (unionOf place items)
      pass
      return body
    | '[' :: _ =>
      match ← listedClass with
      | some c => classBody fuel opened left place (c :: items)
      | none =>
        let c ← bracketed fuel
        classBody fuel opened left place (c :: items)
    | rest =>
      match setOperator? rest with
      | some operator =>
        let body := LeftOperand.close left (unionOf place items)
        pass
        pass
        classBody fuel opened (some (body, operator)) (← here) []
      | none =>
        let c ← classRange opened
        classBody fuel opened left place (c :: items)

end

/-! ### Groups and flags -/

/-- The flag of a letter. -/
def flag? : Char → Option Flag
  | 'i' => some .ignoreCase
  | 'm' => some .multiLine
  | 's' => some .dotAll
  | 'U' => some .swapGreed
  | 'u' => some .unicode
  | 'R' => some .anyNewline
  | 'x' => some .ignoreSpace
  | _ => none

/-- Flags up to a colon or a closing parenthesis: those read so far with their spans, the dash
among them, and whether the dash was the last of them. -/
def flagsUpTo : Nat → List (Flag × Bool × Span) → Option Span → Bool → Reader Flags
  | 0, _, _, _ => failHere .flagEnd
  | fuel + 1, seen, dash, dashLast => do
    let span ← spanChar
    match ← peek with
    | none => failHere .flagEnd
    | some c =>
      if c == ':' || c == ')' then
        match dashLast, dash with
        | true, some dash => fail .flagDangling dash
        | _, _ => return seen.reverse.map fun (f, on, _) => (f, on)
      else if c == '-' then
        if let some first := dash then fail .flagNegatedTwice span (some first)
        pass
        flagsUpTo fuel seen (some span) true
      else match flag? c with
        | none => fail .flagUnknown span
        | some f =>
          if let some (_, _, first) := seen.find? (·.1 == f) then
            fail .flagTwice span (some first)
          pass
          if ← atEnd then failHere .flagEnd
          flagsUpTo fuel ((f, dash.isNone, span) :: seen) dash false

/-- Is this a character of the name of a group? -/
def isNameChar (first : Bool) (c : Char) : Bool :=
  c == '_' || c.isAlpha || 128 ≤ c.toNat ||
    (!first && (c == '.' || c == '[' || c == ']' || c.isDigit))

/-- The name of a group, up to the angle that closes it. -/
def groupName : Reader Unit := do
  if ← atEnd then failHere .nameUnclosed
  let start ← here
  let rest := (← get).rest
  let first := rest.takeWhile fun c => c != '>' && isNameChar true c
  let name := if first.isEmpty then [] else rest.takeWhile fun c => c != '>' && isNameChar false c
  for _ in name do pass
  let stop ← here
  match ← peek with
  | none => failHere .nameUnclosed
  | some '>' =>
    pass
    if name.isEmpty then fail .nameEmpty (.point start)
    let span : Span := ⟨start, stop⟩
    match (← get).names.find? (·.1 == name) with
    | some (_, earlier) => fail .nameTwice span (some earlier)
    | none => modify fun s => { s with names := (name, span) :: s.names }
  | some _ => failChar .nameInvalid

/-- What an opening parenthesis begins. -/
inductive Opening where
  | flags (fs : Flags)
  | group (fs : Flags) (captures : Bool)

/-- An opening parenthesis and what is said right after it. -/
def groupOpening : Reader Opening := do
  let start ← here
  let opened ← spanChar
  pass
  passSpace
  let inner := Span.point (← here)
  for ahead in ["?=", "?!", "?<=", "?<!"] do
    if ← passIf ahead then failSince .lookAround start
  if ← passIf "?P<" then
    groupName
    return .group [] true
  else if ← passIf "?<" then
    groupName
    return .group [] true
  else if ← passIf "?" then
    if ← atEnd then fail .groupUnclosed opened
    let fs ← flagsUpTo (← bound) [] none false
    let closing ← peek
    pass
    if closing == some ')' then
      if fs.isEmpty then fail .nothingToRepeat inner
      return .flags fs
    else return .group fs false
  else return .group [] true

/-- How flags leave the passing over of blanks. -/
def spacedBy (fs : Flags) (before : Bool) : Bool :=
  ((fs.find? (·.1 == .ignoreSpace)).map (·.2)).getD before

/-! ### The whole expression -/

/-- A group under way: what stood before it, newest first, the alternatives before that, where it
was opened, its flags, and whether blanks were passed over before it. -/
structure OpenGroup where
  items : List Expression
  alternatives : List Expression
  opened : Span
  fs : Flags
  captures : Bool
  spaced : Bool

/-- What a list of items and the alternatives before it, newest first, amount to. -/
def closeItems (alternatives items : List Expression) : Expression :=
  .eitherAll (Expression.seqAll items.reverse :: alternatives).reverse

/-- What a repetition repeats, and what stands before it. -/
def repeatable (items : List Expression) : Reader (Expression × List Expression) := do
  match items with
  | [] | .flags _ :: _ => failHere .nothingToRepeat
  | e :: before => return (e, before)

/-- The counts of a repetition, up to the brace that closes it. -/
def countedRange (start : Place) : Reader (Nat × Option Nat) := do
  let needMore : Reader Unit := do
    if ← atEnd then failSince .countUnclosed start
  passBoth
  needMore
  let least ← count
  needMore
  let range ← if (← peek) == some ',' then
      passBoth
      needMore
      if (← peek) != some '\x7d' then
        let least ← least
        let most ← (← count)
        pure (least, some most)
      else pure (← least, none)
    else
      let n ← least
      pure (n, some n)
  if (← peek) != some '\x7d' then failSince .countUnclosed start
  passBoth
  let _ ← passIf "?"
  if range.2.any (· < range.1) then failSince .countOrder start
  return range

/-- An escape as an expression. -/
def Escape.toExpression : Escape → Expression
  | .literal l => .literal l
  | .named kind negated span => .charClass (.named kind negated span)
  | .property name span => .charClass (.property name span)
  | .anchor a span => .anchor a span

/-- One character, or what stands for one, or a condition. -/
def single : Reader Expression := do
  let span ← spanChar
  match ← peek with
  | some '\\' => return (← escape).toExpression
  | some c =>
    pass
    return match c with
      | '.' => .dot span
      | '^' => .anchor .lineStart span
      | '$' => .anchor .lineEnd span
      | c => .literal ⟨c, false, span⟩
  | none => return .empty

/-- Read items until the end: the groups under way, the alternatives before the items, and the
items, newest first. -/
def itemsUpTo : Nat → List OpenGroup → List Expression → List Expression → Reader Expression
  | 0, _, _, _ => failHere .groupUnclosed
  | fuel + 1, groups, alternatives, items => do
    passSpace
    match ← peek with
    | none =>
      match groups with
      | [] => return closeItems alternatives items
      | g :: _ => fail .groupUnclosed g.opened
    | some '(' =>
      let opened ← spanChar
      let spaced := (← get).spaced
      match ← groupOpening with
      | .flags fs =>
        modify fun s => { s with spaced := spacedBy fs spaced }
        itemsUpTo fuel groups alternatives (.flags fs :: items)
      | .group fs captures =>
        modify fun s => { s with spaced := spacedBy fs spaced }
        itemsUpTo fuel (⟨items, alternatives, opened, fs, captures, spaced⟩ :: groups) [] []
    | some ')' =>
      match groups with
      | [] => failChar .groupUnopened
      | g :: groups =>
        modify fun s => { s with spaced := g.spaced }
        pass
        let e := Expression.group g.fs g.captures (closeItems alternatives items)
        itemsUpTo fuel groups g.alternatives (e :: g.items)
    | some '|' =>
      pass
      itemsUpTo fuel groups (Expression.seqAll items.reverse :: alternatives) []
    | some '[' =>
      let c ← bracketed (2 * (← bound))
      itemsUpTo fuel groups alternatives (.charClass c :: items)
    | some '\x7b' =>
      let (e, before) ← repeatable items
      let (least, most) ← countedRange (← here)
      itemsUpTo fuel groups alternatives (.repeated least most e :: before)
    | some c =>
      if c == '?' || c == '*' || c == '+' then
        let (e, before) ← repeatable items
        pass
        let _ ← passIf "?"
        let repeated := Expression.repeated (if c == '+' then 1 else 0)
          (if c == '?' then some 1 else none) e
        itemsUpTo fuel groups alternatives (repeated :: before)
      else
        let e ← single
        itemsUpTo fuel groups alternatives (e :: items)

/-- Read an expression. -/
def Expression.read (pattern : String) : Except Fault Expression :=
  let cs := pattern.toList
  (itemsUpTo (cs.length + 1) [] [] []).run' { rest := cs }

end Rehearsal.Regex
