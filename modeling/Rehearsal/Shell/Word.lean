import Rehearsal.Bytes

/-!
# Words of the shell

A word is what the shell's language has between its blanks: literal text and pieces that stand for
text still to be found, such as the value of a parameter or the output of a command. A piece is
quoted or not; what an unquoted piece stands for is split into fields, and its pattern characters
count.

The shell works on bytes. Its text is a list of characters each of which stands for one byte, so
that its grammar can be written with characters.
-/

namespace Rehearsal.Shell

/-- Text of the shell: each character stands for one byte. -/
abbrev Text := List Char

namespace Text

def ofBytes (b : Bytes) : Text := b.map fun x => Char.ofNat x.toNat

def toBytes (t : Text) : Bytes := t.map fun c => c.toNat.toUInt8

/-- The bytes of a string as text. -/
def ofString (s : String) : Text := ofBytes (.ofString s)

/-- A number in digits. -/
def ofNat (n : Nat) : Text := Nat.toDigits 10 n

def ofInt (n : Int) : Text := if n < 0 then '-' :: ofNat n.natAbs else ofNat n.natAbs

/-- The number that a text of digits stands for. -/
def toNat? (t : Text) : Option Nat :=
  if t.isEmpty || !t.all Char.isDigit then none
  else some (t.foldl (fun n c => n * 10 + (c.toNat - '0'.toNat)) 0)

/-- The number that digits, after a sign or without one, stand for. -/
def toInt? (t : Text) : Option Int :=
  match t with
  | '-' :: rest => (toNat? rest).map fun n => -(n : Int)
  | '+' :: rest => (toNat? rest).map fun n => (n : Int)
  | _ => (toNat? t).map fun n => (n : Int)

/-- The pieces of a text between the places of a character. -/
def pieces (separator : Char) (t : Text) : List Text :=
  t.foldr (fun c pieces =>
    if c = separator then [] :: pieces
    else match pieces with
      | piece :: pieces => (c :: piece) :: pieces
      | [] => [[c]]) [[]]

end Text

/-- May a name begin with this character? -/
def isNameStart (c : Char) : Bool := c.isAlpha || c == '_'

/-- May a name go on with this character? -/
def isNameChar (c : Char) : Bool := c.isAlphanum || c == '_'

/-- Is this a name that a variable may have? -/
def isName (t : Text) : Bool := (t.head?.any isNameStart) && t.all isNameChar

/-- What a parameter gives if it has no value, or if it has one. -/
inductive Fallback where
  /-- The word in place of a missing value. -/
  | useInstead
  /-- The same, and the word becomes the value. -/
  | assign
  /-- The word is an error message. -/
  | fail
  /-- The word in place of a value that is there. -/
  | replace
  deriving DecidableEq, Repr

/-- A piece of a word, over the type of the commands whose output may stand in a word. -/
inductive Part (C : Type) where
  | literal (quoted : Bool) (text : Text)
  | parameter (quoted : Bool) (name : Text)
  /-- The length of a parameter's value. -/
  | length (quoted : Bool) (name : Text)
  /-- A parameter with a fallback. With a colon, an empty value counts as missing. -/
  | fallback (quoted : Bool) (name : Text) (colon : Bool) (kind : Fallback) (word : List (Part C))
  /-- A parameter's value without what fits a pattern at one of its ends. -/
  | trimmed (quoted : Bool) (name : Text) (fromEnd longest : Bool) (pattern : List (Part C))
  | arithmetic (quoted : Bool) (body : List (Part C))
  /-- The output of a command. -/
  | command (quoted : Bool) (c : C)
  /-- Braces around something that is no parameter. -/
  | malformed
  deriving Inhabited

/-- A word, as its pieces. -/
abbrev WordOf (C : Type) := List (Part C)

namespace WordOf

variable {C : Type}

/-- A word that is plain text. -/
def ofText (t : Text) : WordOf C := [.literal true t]

/-- The text of a word in which nothing is quoted and nothing stands for something else. -/
def plain? : WordOf C → Option Text
  | [.literal false t] => some t
  | _ => none

/-- The text of a word in which nothing stands for something else, without its quotes. -/
def unquoted (w : WordOf C) : Text := w.flatMap fun
  | .literal _ t => t
  | _ => []

/-- Is any piece of a word quoted? -/
def hasQuotes (w : WordOf C) : Bool := w.any fun
  | .literal quoted _ => quoted
  | _ => false

/-- The name and the value of a word that assigns. -/
def assignment? : WordOf C → Option (Text × WordOf C)
  | .literal false t :: rest =>
    let name := t.takeWhile (· != '=')
    match t.dropWhile (· != '=') with
    | _ :: value => if isName name then some (name, .literal false value :: rest) else none
    | [] => none
  | _ => none

end WordOf

end Rehearsal.Shell
