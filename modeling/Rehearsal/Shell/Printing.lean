import Rehearsal.Shell.Numeral

/-!
# Sequences with a backslash

In what is printed, a backslash and what follows it stand for a character: a letter for a control
character, digits for the number of a byte. Who prints decides which sequences are known; that is an
`EscapeRules`. `unescape` replaces the sequences of a text, and `echo` prints arguments.
-/

namespace Rehearsal.Shell.Printing

open Numeral

/-- Who prints. -/
inductive Dialect where
  | builtin
  | program
  deriving DecidableEq, Repr

/-- Which sequences are known beside letters and octal numbers. -/
structure EscapeRules where
  /-- Does `\c` put an end to all printing? -/
  stops : Bool := false
  /-- May an octal number begin with a zero that does not count? -/
  spareZero : Bool := false
  /-- Are there hexadecimal numbers? -/
  hexadecimal : Bool := false
  /-- Are there characters by their number in Unicode, and is a number without digits a mistake? -/
  unicode : Bool := false
  /-- Does what follows an unknown letter stand for itself, whatever it is? -/
  takesNext : Bool := false
  deriving Repr

namespace EscapeRules

/-- The sequences of a format. -/
def format : Dialect → EscapeRules
  | .builtin => {}
  | .program => { stops := true, hexadecimal := true, unicode := true, takesNext := true }

/-- The sequences of an argument. -/
def argument (dialect : Dialect) : EscapeRules :=
  { format dialect with stops := true, spareZero := true }

/-- The sequences of what `echo` prints. -/
def echo (dialect : Dialect) : EscapeRules :=
  { stops := true, spareZero := true, hexadecimal := dialect = .program }

end EscapeRules

/-- The byte that a number stands for. -/
def byteOf (n : Nat) : Char := Char.ofNat (n % 256)

/-- The character that a letter after a backslash stands for. -/
def letterEscape? : Char → Option Char
  | 'a' => some '\x07'
  | 'b' => some '\x08'
  | 'e' => some '\x1b'
  | 'f' => some '\x0c'
  | 'n' => some '\n'
  | 'r' => some '\r'
  | 't' => some '\t'
  | 'v' => some '\x0b'
  | '\\' => some '\\'
  | _ => none

/-- What follows a backslash. -/
inductive Escape where
  /-- It stands for a text; what comes after it. -/
  | text (t rest : Text)
  | stop
  | fail (what : String)

/-- A number in hexadecimal digits, as many of them as are asked for. -/
def hexText (width n : Nat) : Text :=
  let ds := Nat.toDigits 16 n
  List.replicate (width - ds.length) '0' ++ ds

/-- A character of Unicode by its number, which is written with a letter and so many digits. Only
bytes below 128 are written as they are, the others by their numbers. -/
def readUnicode (letter : Char) (digits : Nat) (cs : Text) : Escape :=
  let ds := (cs.take digits).takeWhile isHex
  let n := ofDigits 16 ds
  if ds.length < digits then .fail "missing hexadecimal number in escape"
  else if 0xd800 ≤ n && n < 0xe000 then
    .fail ("invalid universal character name \\" ++ String.ofList (letter :: hexText digits n))
  else
    let t :=
      if n < 128 then [byteOf n]
      else if n < 0x10000 then '\\' :: 'u' :: (hexText 4 n).map Char.toUpper
      else '\\' :: 'U' :: (hexText 8 n).map Char.toUpper
    .text t (cs.drop digits)

/-- Read what follows a backslash. What is no sequence stands for itself, backslash and all. -/
def readEscape (rules : EscapeRules) (cs : Text) : Escape :=
  match cs with
  | [] => .text ['\\'] []
  | c :: rest =>
    let unknown := if rules.takesNext then Escape.text ['\\', c] rest else .text ['\\'] cs
    if let some d := letterEscape? c then .text [d] rest
    else if isOctal c then
      let digits := if rules.spareZero && c = '0' then rest else cs
      let ds := (digits.take 3).takeWhile isOctal
      .text [byteOf (ofDigits 8 ds)] (digits.drop ds.length)
    else if c = 'c' && rules.stops then .stop
    else if c = '"' && rules.unicode then .text ['"'] rest
    else if c = 'x' && rules.hexadecimal then
      let ds := (rest.take 2).takeWhile isHex
      if !ds.isEmpty then .text [byteOf (ofDigits 16 ds)] (rest.drop ds.length)
      else if rules.unicode then .fail "missing hexadecimal number in escape"
      else unknown
    else if c = 'u' && rules.unicode then readUnicode c 4 rest
    else if c = 'U' && rules.unicode then readUnicode c 8 rest
    else unknown

/-- How a text with sequences in it ends. -/
inductive Ending where
  | normal
  /-- All printing is to end. -/
  | stops
  /-- There is a mistake in it. -/
  | fails (what : String)
  deriving DecidableEq, Repr

/-- The beginning of a text with its sequences replaced, and how it ends. -/
def unescapeUpTo (rules : EscapeRules) : Nat → Text → Text × Ending
  | 0, _ => ([], .normal)
  | _ + 1, [] => ([], .normal)
  | fuel + 1, c :: rest =>
    if c = '\\' then
      match readEscape rules rest with
      | .text d rest =>
        let (t, ending) := unescapeUpTo rules fuel rest
        (d ++ t, ending)
      | .stop => ([], .stops)
      | .fail what => ([], .fails what)
    else
      let (t, ending) := unescapeUpTo rules fuel rest
      (c :: t, ending)

/-- A text with its sequences replaced, and how it ends. -/
def unescape (rules : EscapeRules) (t : Text) : Text × Ending := unescapeUpTo rules t.length t

/-! ### Printing arguments -/

/-- What `echo` does with its arguments. -/
structure EchoStyle where
  newline : Bool := true
  escapes : Bool := false

/-- The style that the options before the arguments ask for, and the arguments. The shell's own
command knows one option, and replaces sequences always. -/
def readEchoStyle (dialect : Dialect) (style : EchoStyle) : List Text → EchoStyle × List Text
  | [] => (style, [])
  | w :: ws =>
    match dialect, w with
    | .builtin, ['-', 'n'] => ({ newline := false, escapes := true }, ws)
    | .builtin, _ => ({ style with escapes := true }, w :: ws)
    | .program, '-' :: c :: cs =>
      if (c :: cs).all "neE".toList.contains then
        let style := (c :: cs).foldl (fun (s : EchoStyle) c =>
          match c with
          | 'n' => { s with newline := false }
          | c => { s with escapes := c = 'e' }) style
        readEchoStyle dialect style ws
      else (style, w :: ws)
    | .program, _ => (style, w :: ws)

/-- What `echo` prints. -/
def echo (dialect : Dialect) (args : List Text) : Text :=
  let (style, args) := readEchoStyle dialect {} args
  let joined := [' '].intercalate args
  let (t, ending) :=
    if style.escapes then unescape (.echo dialect) joined else (joined, Ending.normal)
  if style.newline && ending = .normal then t ++ ['\n'] else t

end Rehearsal.Shell.Printing
