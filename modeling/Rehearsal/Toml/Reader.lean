import Rehearsal.Toml.Document
import Rehearsal.Number.Literal

/-!
# Reading a TOML document

A reader takes characters off the front of a list, or fails; a failure says nothing but that the
text is no TOML. Repetition is bounded by the length of the whole text, nesting of arrays and
inline tables by `maxNesting`, and the dotted parts of a key by `maxKeyParts`.

`parse?` reads a document in two steps: its statements, then the table that they describe.
-/

namespace Rehearsal.Toml

/-- Something read off the front of a text. The number is more than the steps of a repetition that
takes a character at each of them. -/
abbrev Reader := ReaderT Nat (StateT (List Char) Option)

namespace Reader

/-- The next character, left where it is. -/
def peek : Reader (Option Char) := do return (← get).head?

/-- Take one character of a class. -/
def one (p : Char → Bool) : Reader Char := do
  match ← get with
  | c :: rest => if p c then set rest; return c else failure
  | [] => failure

/-- Take this very character. -/
def char (c : Char) : Reader Unit := discard (one (· == c))

/-- Take this very text. -/
def text (s : String) : Reader Unit := s.toList.forM char

/-- Take the characters of a class. -/
def takeWhile (p : Char → Bool) : Reader (List Char) := do
  let cs ← get
  set (cs.dropWhile p)
  return cs.takeWhile p

/-- Try to read something; take nothing if that fails. -/
def attempt {α : Type} (r : Reader α) : Reader (Option α) := fun bound cs =>
  match r bound cs with
  | some (a, rest) => some (some a, rest)
  | none => some (none, cs)

/-- Repeat a step until it yields nothing, at most `fuel` times. -/
def repeatUpTo {α : Type} (step : Reader (Option α)) : Nat → Reader (List α)
  | 0 => failure
  | fuel + 1 => do
    match ← step with
    | none => return []
    | some a => return a :: (← repeatUpTo step fuel)

/-- Repeat a step until it yields nothing. Every step that yields something takes a character. -/
def many {α : Type} (step : Reader (Option α)) : Reader (List α) := do
  repeatUpTo step (← read)

/-- Read a whole text. -/
def run? {α : Type} (r : Reader α) (s : List Char) : Option α :=
  match r (s.length + 1) s with
  | some (a, []) => some a
  | _ => none

end Reader

open Reader

/-! ### Blanks, comments, line ends -/

def isSpaceOrTab (c : Char) : Bool := c == ' ' || c == '\t'

/-- A character that may stand in a comment or a string: no control character but the tab. -/
def isPlain (c : Char) : Bool := c == '\t' || (0x20 ≤ c.toNat && c.toNat != 0x7f)

def blanks : Reader Unit := discard (takeWhile isSpaceOrTab)

def newline : Reader Unit := char '\n' <|> text "\r\n"

def comment : Reader Unit := do
  char '#'
  discard (takeWhile isPlain)

/-- The end of a line: blanks, a comment, and a line break or the end of the text. -/
def lineEnd : Reader Unit := do
  blanks
  discard (attempt comment)
  unless (← get).isEmpty do newline

/-- Blanks, comments and line breaks, as they may stand inside an array. -/
def filler : Reader Unit := do
  discard <| many do
    match ← peek with
    | some '#' => do comment; newline; return some ()
    | some '\n' | some '\r' => do newline; return some ()
    | some c => if isSpaceOrTab c then do blanks; return some () else return none
    | none => return none

/-! ### Strings -/

def isHexDigit (c : Char) : Bool := c.isDigit || ('a' ≤ c && c ≤ 'f') || ('A' ≤ c && c ≤ 'F')

def hexValue (c : Char) : Nat :=
  if c.isDigit then c.toNat - '0'.toNat else c.toLower.toNat - 'a'.toNat + 10

/-- The character whose number has `n` hexadecimal digits. -/
def codePoint (n : Nat) : Reader Char := do
  let digits ← (List.replicate n ()).mapM fun _ => one isHexDigit
  let value := digits.foldl (fun v c => v * 16 + hexValue c) 0
  if value.isValidChar then return Char.ofNat value else failure

/-- What stands after a backslash. -/
def escape : Reader Char := do
  match ← one fun _ => true with
  | 'b' => return '\x08'
  | 't' => return '\t'
  | 'n' => return '\n'
  | 'f' => return '\x0c'
  | 'r' => return '\r'
  | '"' => return '"'
  | '\\' => return '\\'
  | 'u' => codePoint 4
  | 'U' => codePoint 8
  | _ => failure

/-- A character of a string in double quotes, if it is not the closing one. -/
def basicChar : Reader (Option Char) := do
  match ← one fun _ => true with
  | '"' => return none
  | '\\' => some <$> escape
  | c => if isPlain c then return some c else failure

/-- A character of a string in single quotes, if it is not the closing one. -/
def literalChar (quote : Char) : Reader (Option Char) := do
  let c ← one fun _ => true
  if c == quote then return none
  else if isPlain c then return some c
  else failure

/-- Up to two quotes that are content, or three that close a string after up to two that are. -/
def quoteRun (quote : Char) : Reader (List Char × Bool) := do
  let run := ((← get).takeWhile (· == quote)).length
  let taken := if run < 3 then run else min run 5
  set ((← get).drop taken)
  return (List.replicate (if run < 3 then run else taken - 3) quote, 3 ≤ run)

/-- A line break inside a string of several lines. -/
def breakInString : Reader (List Char) := do
  newline
  return ['\n']

/-- A backslash that joins lines: it takes the blanks and line breaks after it. -/
def lineJoin : Reader (List Char) := do
  char '\\'
  blanks
  newline
  discard <| many do
    match ← peek with
    | some c =>
      if isSpaceOrTab c then do blanks; return some ()
      else if c == '\n' || c == '\r' then do newline; return some ()
      else return none
    | none => return none
  return []

/-- A piece of a string of several lines; the flag says that the string ends with it. -/
def linesPiece (quote : Char) (escapes : Bool) : Reader (List Char × Bool) := do
  match ← peek with
  | none => failure
  | some c =>
    if c == quote then quoteRun quote
    else if c == '\n' || c == '\r' then do return (← breakInString, false)
    else if c == '\\' && escapes then
      (do return (← lineJoin, false)) <|> (do char '\\'; return ([← escape], false))
    else do return ([← one isPlain], false)

/-- The pieces of a string of several lines, until one of them ends it. -/
def linesBody (quote : Char) (escapes : Bool) : Nat → Reader (List Char)
  | 0 => failure
  | fuel + 1 => do
    let (piece, done) ← linesPiece quote escapes
    if done then return piece else return piece ++ (← linesBody quote escapes fuel)

/-- A string of several lines; a line break right after the opening quotes does not count. -/
def linesString (quote : Char) (escapes : Bool) : Reader String := do
  text (String.ofList (List.replicate 3 quote))
  discard (attempt newline)
  return String.ofList (← linesBody quote escapes (← read))

/-- The single quote. -/
def singleQuote : Char := Char.ofNat 39

def basicString : Reader String := do
  char '"'
  return String.ofList (← many basicChar)

def literalString : Reader String := do
  char singleQuote
  return String.ofList (← many (literalChar singleQuote))

def string : Reader String :=
  linesString '"' true <|> basicString <|> linesString singleQuote false <|> literalString

/-! ### Keys -/

/-- The number of parts from which on a dotted key is refused. -/
def maxKeyParts : Nat := 128

def isKeyChar (c : Char) : Bool := c.isAlphanum || c == '_' || c == '-'

/-- One part of a key. -/
def keyPart : Reader String := do
  match ← peek with
  | some '"' => basicString
  | some c =>
    if c == singleQuote then literalString
    else return String.ofList ((← one isKeyChar) :: (← takeWhile isKeyChar))
  | none => failure

/-- A dotted key, as its leading parts and its last one. -/
def key : Reader (List String × String) := do
  blanks
  let first ← keyPart
  blanks
  let more ← many do
    match ← peek with
    | some '.' => do
      char '.'
      blanks
      let part ← keyPart
      blanks
      return some part
    | _ => return none
  let parts := first :: more
  if maxKeyParts ≤ parts.length then failure
  else return (parts.dropLast, parts.getLast?.getD first)

/-! ### Numbers, dates, times -/

/-- Digits of a class; single underscores may stand between them, and are left out. -/
def digitRun (p : Char → Bool) : Reader (List Char) := do
  let first ← one p
  let more ← many (attempt (one p <|> do char '_'; one p))
  return first :: more

/-- An optional sign. -/
def sign : Reader (List Char) := do
  match ← attempt (one fun c => c == '+' || c == '-') with
  | some c => return [c]
  | none => return []

/-- A decimal integer: a lone zero, or digits that do not begin with one. -/
def decimalDigits : Reader (List Char) := do
  match ← peek with
  | some '0' => do char '0'; return ['0']
  | _ => digitRun Char.isDigit

/-- A power of ten. -/
def powerPart : Reader (List Char) := do
  discard (one fun c => c == 'e' || c == 'E')
  return 'e' :: (← sign) ++ (← digitRun Char.isDigit)

/-- A number with a fraction or a power of ten; one that is too large is refused. -/
def decimal : Reader Binary64 := do
  let whole := (← sign) ++ (← decimalDigits)
  let fraction ← attempt do char '.'; return '.' :: (← digitRun Char.isDigit)
  let power ← if fraction.isSome then attempt powerPart else some <$> powerPart
  match readNumber (String.ofList (whole ++ fraction.getD [] ++ power.getD [])) with
  | .ok x => if x = .infinity false then failure else return x
  | .error _ => failure

/-- Infinity or not-a-number, with or without a sign. -/
def specialNumber : Reader Binary64 := do
  let negative := (← sign) == ['-']
  (do text "inf"; return .infinity negative) <|> (do text "nan"; return .nan)

/-- An integer in a base that is named in front of it. -/
def basedInteger (mark : Char) (base : Nat) (p : Char → Bool) : Reader Int := do
  char '0'
  char mark
  let n := (← digitRun p).foldl (fun v c => v * base + hexValue c) 0
  if n < Nat.pow 2 63 then return n else failure

def decimalInteger : Reader Int := do
  let negative := (← sign) == ['-']
  let n : Int := digitsValue (← decimalDigits)
  let n := if negative then -n else n
  if -(Nat.pow 2 63 : Int) ≤ n && n < (Nat.pow 2 63 : Int) then return n else failure

def integer : Reader Int :=
  basedInteger 'x' 16 isHexDigit
    <|> basedInteger 'o' 8 (fun c => '0' ≤ c && c ≤ '7')
    <|> basedInteger 'b' 2 (fun c => c == '0' || c == '1')
    <|> decimalInteger

/-- A number of exactly `n` digits, with its digits. -/
def fixedDigits (n : Nat) : Reader (Nat × List Char) := do
  let digits ← (List.replicate n ()).mapM fun _ => one Char.isDigit
  return (digitsValue digits, digits)

/-- A number of `n` digits between two bounds. -/
def bounded (n low high : Nat) : Reader (Nat × List Char) := do
  let (value, digits) ← fixedDigits n
  if low ≤ value && value ≤ high then return (value, digits) else failure

/-- A date; every month may have 31 days. -/
def fullDate : Reader (List Char) := do
  let (_, y) ← fixedDigits 4
  char '-'
  let (_, m) ← bounded 2 1 12
  char '-'
  let (_, d) ← bounded 2 1 31
  return y ++ '-' :: m ++ '-' :: d

def partialTime : Reader (List Char) := do
  let (_, h) ← bounded 2 0 23
  char ':'
  let (_, m) ← bounded 2 0 59
  char ':'
  let (_, s) ← bounded 2 0 60
  let fraction ← attempt do
    char '.'
    return '.' :: (← one Char.isDigit) :: (← takeWhile Char.isDigit)
  return h ++ ':' :: m ++ ':' :: s ++ fraction.getD []

def timeOffset : Reader (List Char) :=
  (do return [← one fun c => c == 'Z' || c == 'z']) <|> do
    let mark ← one fun c => c == '+' || c == '-'
    let (_, h) ← bounded 2 0 23
    char ':'
    let (_, m) ← bounded 2 0 59
    return mark :: h ++ ':' :: m

/-- A date, a time, or both. -/
def moment : Reader String :=
  (do
    let date ← fullDate
    let time ← attempt do
      let mark ← one fun c => c == 'T' || c == 't' || c == ' '
      let time ← partialTime
      let offset ← attempt timeOffset
      return mark :: time ++ offset.getD []
    return String.ofList (date ++ time.getD []))
  <|> (String.ofList <$> partialTime)

/-! ### Values -/

/-- How deep arrays and inline tables may lie in each other. -/
def maxNesting : Nat := 127

def boolean : Reader Bool := (do text "true"; return true) <|> (do text "false"; return false)

/-- The items of an array after its opening bracket. -/
def arrayItems (item : Reader Value) : Reader (List Value) := do
  let rest ← many do
    filler
    match ← peek with
    | some ']' => return none
    | _ => do
      let v ← item
      filler
      match ← peek with
      | some ',' => char ','
      | some ']' => pure ()
      | _ => failure
      return some v
  char ']'
  return rest

/-- A pair of an inline table. -/
def inlinePair (item : Reader Value) : Reader (List String × String × Value) := do
  let (path, k) ← key
  char '='
  blanks
  let v ← item
  blanks
  return (path, k, v)

/-- The pairs of an inline table after its opening brace. -/
def inlinePairs (item : Reader Value) : Reader (List (List String × String × Value)) := do
  blanks
  match ← peek with
  | some '\x7d' => do char '\x7d'; return []
  | _ => do
    let first ← inlinePair item
    let more ← many do
      match ← peek with
      | some ',' => do char ','; some <$> inlinePair item
      | _ => return none
    char '\x7d'
    return first :: more

/-- A value; arrays and inline tables in it may lie `depth` deep. -/
def value : Nat → Reader Value
  | 0 => scalar
  | depth + 1 => do
    match ← peek with
    | some '[' => do
      char '['
      return .array (← arrayItems (value depth))
    | some '\x7b' => do
      char '\x7b'
      match inlineTable? (← inlinePairs (value depth)) with
      | some fields => return .table fields
      | none => failure
    | _ => scalar
where
  /-- A value without parts. -/
  scalar : Reader Value :=
    (.string <$> string) <|> (.boolean <$> boolean) <|> (.moment <$> moment) <|>
      (.decimal <$> decimal) <|> (.decimal <$> specialNumber) <|> (.integer <$> integer)

/-! ### Documents -/

/-- A pair on a line of its own. -/
def pairLine : Reader Statement := do
  let (path, k) ← key
  char '='
  blanks
  let v ← value maxNesting
  lineEnd
  return .pair path k v

/-- A header on a line of its own. -/
def headerLine : Reader Statement := do
  char '['
  match ← peek with
  | some '[' => do
    char '['
    let (path, k) ← key
    text "]]"
    lineEnd
    return .rowHeader path k
  | _ => do
    let (path, k) ← key
    char ']'
    lineEnd
    return .header path k

/-- A line, with the statement on it if there is one. -/
def line : Reader (Option (Option Statement)) := do
  blanks
  match ← peek with
  | none => return none
  | some '\n' | some '\r' | some '#' => do lineEnd; return some none
  | some '[' => return some (some (← headerLine))
  | some _ => return some (some (← pairLine))

/-- The statements of a text. A byte order mark in front does not count. -/
def statements? (s : String) : Option (List Statement) :=
  let cs := match s.toList with
    | '\ufeff' :: rest => rest
    | cs => cs
  ((many line).run? cs).map (·.filterMap id)

/-- The table that a text describes, if it is TOML. -/
def parse? (s : String) : Option (List (String × Value)) := do
  return (← Document.ofStatements? (← statements? s)).fields

end Rehearsal.Toml
