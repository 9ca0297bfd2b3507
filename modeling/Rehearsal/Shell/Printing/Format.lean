import Rehearsal.Shell.Printing.Scalar
import Rehearsal.Shell.Quoting

/-!
# Printing by a format

A format is read into pieces: text, and conversions of arguments. It is used again as long as
arguments are left, and missing arguments count as empty or zero. What is printed comes out as a list
of texts and complaints, in their order.
-/

namespace Rehearsal.Shell.Printing

open Numeral

/-- A width or a precision: given, or taken from an argument. -/
inductive Size where
  | given (n : Nat)
  | argument
  deriving Repr

/-- A conversion of a format. -/
structure Conversion where
  flags : Text
  width : Size
  precision : Option Size
  /-- The letter that says what is converted, if the format goes on so far. -/
  kind : Option Char
  /-- The conversion as it stands in the format. -/
  source : Text
  deriving Repr

/-- A piece of a format. -/
inductive Piece where
  | text (t : Text)
  | convert (c : Conversion)
  | stop
  | fail (what : String)

namespace Conversion

/-- The flags that a printer knows. -/
def flagsOf : Dialect → List Char
  | .builtin => "#-+ 0".toList
  | .program => "#-+ 0'I".toList

/-- The letters that a flag may not stand before. -/
def forbidden : Char → List Char
  | '\'' | 'I' => "aAceEosxX".toList
  | '#' => "cdisu".toList
  | '0' => "cs".toList
  | _ => []

/-- Is a conversion known? -/
def isKnown (dialect : Dialect) (c : Conversion) : Bool :=
  let letters := "aAcdeEfFgGiosuxX".toList
  match c.kind, dialect with
  | none, _ => false
  | some k, .builtin => k = 'b' || letters.contains k
  | some k, .program =>
    c.source = ['%', 'b'] || c.source = ['%', 'q'] ||
      (letters.contains k && !(k = 'c' && c.precision.isSome) &&
        !c.flags.any fun flag => (forbidden flag).contains k)

/-- A size at the front of a text. -/
def readSize (cs : Text) : Size × Text :=
  match cs with
  | '*' :: rest => (.argument, rest)
  | _ => (.given (ofDigits 10 (cs.takeWhile Char.isDigit)), cs.dropWhile Char.isDigit)

/-- Read a conversion after its percent sign. A program knows letters for the size of a number, which
mean nothing here. -/
def read (dialect : Dialect) (cs : Text) : Conversion × Text :=
  let isFlag (c : Char) : Bool := (flagsOf dialect).contains c
  let flags := cs.takeWhile isFlag
  let (width, rest) := readSize (cs.dropWhile isFlag)
  let (precision, rest) := match rest with
    | '.' :: rest =>
      let (size, rest) := readSize rest
      (some size, rest)
    | _ => (none, rest)
  let rest := match dialect with
    | .builtin => rest
    | .program => rest.dropWhile "lLhjtz".toList.contains
  let after := rest.drop 1
  let source := '%' :: cs.take (cs.length - after.length)
  ({ flags, width, precision, kind := rest.head?, source }, after)

end Conversion

/-- The pieces at the front of a format. -/
def readPieces (dialect : Dialect) : Nat → Text → List Piece
  | 0, _ => []
  | _ + 1, [] => []
  | fuel + 1, c :: rest =>
    if c = '\\' then
      match readEscape (.format dialect) rest with
      | .text t rest => .text t :: readPieces dialect fuel rest
      | .stop => [.stop]
      | .fail what => [.fail what]
    else if c = '%' then
      match rest with
      | '%' :: rest => .text ['%'] :: readPieces dialect fuel rest
      | _ =>
        let (conversion, rest) := Conversion.read dialect rest
        .convert conversion :: readPieces dialect fuel rest
    else
      let isPlain (c : Char) : Bool := c != '\\' && c != '%'
      .text (c :: rest.takeWhile isPlain) :: readPieces dialect fuel (rest.dropWhile isPlain)

/-- The pieces of a format. -/
def pieces (dialect : Dialect) (format : Text) : List Piece :=
  readPieces dialect format.length format

/-! ### Printing -/

/-- What comes out of a printer. -/
inductive Output where
  | text (t : Text)
  | complaint (what : String)
  deriving Repr

/-- A printer at work. -/
structure Printer where
  dialect : Dialect
  args : List Text
  /-- What came out, newest first. -/
  output : List Output := []
  status : Nat := 0
  /-- Has an argument been asked for? -/
  used : Bool := false
  isOver : Bool := false
  /-- Was the format a mistake? -/
  gaveUp : Bool := false

namespace Printer

def print (p : Printer) (t : Text) : Printer := { p with output := .text t :: p.output }

def complain (p : Printer) (what : String) : Printer :=
  { p with output := .complaint what :: p.output }

/-- End all printing because of a mistake in the format. -/
def giveUp (p : Printer) (what : String) : Printer :=
  { p.complain what with
    status := if p.dialect = .builtin then 2 else 1
    isOver := true
    gaveUp := true }

/-- End all printing. A program forgets what went wrong before. -/
def stop (p : Printer) : Printer :=
  { p with isOver := true, status := if p.dialect = .builtin then p.status else 0 }

/-- The next argument, if there is one. -/
def next (p : Printer) : Option Text × Printer :=
  (p.args.head?, { p with args := p.args.drop 1, used := p.used || !p.args.isEmpty })

/-- Say what is wrong with an argument that should be a number. The shell looks at what follows the
number first, and a program at whether the number fits. -/
def check {α : Type} (p : Printer) (arg : Text) (l : Leading α) : Printer :=
  let name := match p.dialect with
    | .builtin => String.ofList arg
    | .program => String.ofList (Quoting.shown arg)
  let outOfRange := name ++ ": Numerical result out of range"
  let unfinished := match p.dialect with
    | .builtin => name ++ ": not completely converted"
    | .program => name ++ ": value not completely converted"
  let notANumber := match p.dialect with
    | .builtin => name ++ ": expected numeric value"
    | .program => name ++ ": expected a numeric value"
  let fault? : Option String :=
    if l.isOutOfRange && (p.dialect = .program || l.rest.isEmpty) then some outOfRange
    else if l.rest.isEmpty then none
    else if l.rest.length = arg.length then some notANumber
    else some unfinished
  match fault? with
  | some fault => { p.complain fault with status := 1 }
  | none => p

/-- The next argument as a number: as `read` reads it, or the code of a character after a quote. -/
def nextNumber {α : Type} (p : Printer) (read : Text → Leading α) (ofCode : Nat → α) :
    α × Printer :=
  let (arg, p) := p.next
  let arg := arg.getD []
  let plain :=
    let l := read arg
    (l.value, p.check arg l)
  match p.dialect, arg with
  | .builtin, '\'' :: rest | .builtin, '"' :: rest => (ofCode (rest.headD '\x00').toNat, p)
  | .program, '\'' :: c :: rest | .program, '"' :: c :: rest =>
    (ofCode c.toNat, if rest.isEmpty then p
      else p.complain ("warning: " ++ String.ofList rest ++
        ": character(s) following character constant have been ignored"))
  | _, _ => plain

/-- The next argument as a whole number. -/
def nextInteger (p : Printer) (isSigned : Bool) : Int × Printer :=
  p.nextNumber (readInteger isSigned) (fun n => (n : Int))

/-- The greatest width. -/
def maxSize : Int := Nat.pow 2 31 - 1

/-- A size as a number. The shell wraps a number that is too large, a program refuses it. -/
def size (p : Printer) (what : String) (s : Size) : Int × Printer :=
  match s with
  | .given n =>
    if maxSize < n then
      (0, p.giveUp (if p.dialect = .builtin then "xvsnprintf failed" else "write error"))
    else (n, p)
  | .argument =>
    let arg := p.args.headD []
    let (n, p) := p.nextInteger true
    let tooSmall := what = "field width" && n < -maxSize - 1
    match p.dialect with
    | .builtin => (n.bmod (Nat.pow 2 32), p)
    | .program =>
      if maxSize < n || tooSmall then
        (0, p.giveUp ("invalid " ++ what ++ ": " ++ String.ofList (Quoting.shown arg)))
      else (n, p)

/-- The layout of a conversion: a negative width means its size at the left, and a negative precision
is none. -/
def layout (p : Printer) (c : Conversion) : Layout × Printer :=
  let (width, p) := p.size "field width" c.width
  let flags := if width < 0 then '-' :: c.flags else c.flags
  match if p.isOver then none else c.precision with
  | none => ({ flags, width := width.natAbs }, p)
  | some s =>
    let (precision, p) := p.size "precision" s
    ({ flags, width := width.natAbs,
       precision := if precision < 0 then none else some precision.toNat }, p)

/-- Print an argument with its sequences replaced. -/
def printUnescaped (p : Printer) (l : Layout) (arg : Text) : Printer :=
  let (t, ending) := unescape (.argument p.dialect) arg
  let p := p.print (l.pad ((l.precision.map t.take).getD t))
  match ending with
  | .normal => p
  | .stops => p.stop
  | .fails what => p.giveUp what

/-- What is said of a conversion that is not known. -/
def unknown (p : Printer) (c : Conversion) : String :=
  let source := String.ofList c.source
  match p.dialect with
  | .program => source ++ ": invalid conversion specification"
  | .builtin => if c.kind.isNone then "missing format character" else source ++ ": invalid directive"

/-- Carry out a conversion. -/
def convert (p : Printer) (c : Conversion) : Printer :=
  let (l, p) := p.layout c
  if p.isOver then p
  else if !c.isKnown p.dialect then p.giveUp (p.unknown c)
  else
    let kind := c.kind.getD 's'
    let scalars := ScalarFormat.of p.dialect
    if "bsqc".toList.contains kind then
      let (arg, p) := p.next
      let t := arg.getD []
      match kind with
      | 'b' => p.printUnescaped l t
      | 'q' => p.print (if arg.isNone then [] else Quoting.forShell false t)
      | 'c' => p.print (l.pad [t.headD '\x00'])
      | _ => p.print (l.pad ((l.precision.map t.take).getD t))
    else if "diouxX".toList.contains kind then
      let (n, p) := p.nextInteger (kind = 'd' || kind = 'i')
      p.print (l.integer kind n)
    else
      let (x, p) := p.nextNumber (Scalar.read scalars) (Scalar.ofNat scalars)
      p.print (x.text scalars l kind)

/-- Print by the pieces of a format, once. -/
def pass (p : Printer) (pieces : List Piece) : Printer :=
  pieces.foldl (fun p piece =>
    if p.isOver then p
    else match piece with
      | .text t => p.print t
      | .convert c => p.convert c
      | .stop => p.stop
      | .fail what => p.giveUp what) p

/-- Print by the pieces of a format, again and again while they use arguments and some are left. -/
def passes (pieces : List Piece) : Nat → Printer → Printer
  | 0, p => p
  | fuel + 1, p =>
    let p := pass { p with used := false } pieces
    if p.args.isEmpty || p.isOver || !p.used then p else passes pieces fuel p

/-- Warn of arguments that no conversion wants. -/
def warnOfRest (p : Printer) : Printer :=
  match p.dialect, p.args with
  | .program, arg :: _ =>
    if p.isOver then p
    else p.complain ("warning: ignoring excess arguments, starting with " ++
      String.ofList (Quoting.shown arg))
  | _, _ => p

end Printer

/-- What has come of printing by a format. -/
structure Printed where
  output : List Output
  status : Nat
  /-- Was the format a mistake? -/
  gaveUp : Bool

/-- Texts that follow one another become one. -/
def mergeTexts : List Output → List Output
  | [] => []
  | .complaint what :: rest => .complaint what :: mergeTexts rest
  | .text t :: rest =>
    match mergeTexts rest with
    | .text u :: rest => .text (t ++ u) :: rest
    | rest => .text t :: rest

/-- Print arguments by a format. The shell holds its text back, so its complaints come first. -/
def printf (dialect : Dialect) (format : Text) (args : List Text) : Printed :=
  let p := Printer.passes (pieces dialect format) (args.length + 1) { dialect, args }
  let p := p.warnOfRest
  let output := p.output.reverse
  let isText : Output → Bool
    | .text _ => true
    | .complaint _ => false
  { output := mergeTexts (match dialect with
      | .builtin => output.filter (!isText ·) ++ output.filter isText
      | .program => output)
    status := p.status
    gaveUp := p.gaveUp }

end Rehearsal.Shell.Printing
