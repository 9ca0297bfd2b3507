import Rehearsal.Shell.Word

/-!
# Quoted texts

Two ways of showing a text so that a reader sees where it begins and ends. `Quoting.shown` puts it
between single quotes and writes what cannot be seen as sequences with a backslash. `Quoting.forShell`
writes it so that a shell reads it back as it is, with quotes only where they are needed, if that is
wanted.
-/

namespace Rehearsal.Shell.Quoting

/-- Can a character be seen? -/
def isVisible (c : Char) : Bool := ' ' ≤ c && c ≤ '~'

/-- The letter that stands for a character after a backslash. -/
def letter? : Char → Option Char
  | '\x07' => some 'a'
  | '\x08' => some 'b'
  | '\x0c' => some 'f'
  | '\n' => some 'n'
  | '\r' => some 'r'
  | '\t' => some 't'
  | '\x0b' => some 'v'
  | _ => none

/-- A character that cannot be seen, after a backslash: a letter, or three octal digits. -/
def hidden (c : Char) : Text :=
  match letter? c with
  | some l => ['\\', l]
  | none =>
    let digit (n : Nat) : Char := Char.ofNat ('0'.toNat + n % 8)
    ['\\', digit (c.toNat / 64), digit (c.toNat / 8), digit c.toNat]

/-- A text between single quotes. -/
def shown (t : Text) : Text :=
  '\'' :: t.flatMap (fun c =>
    if c = '\\' || c = '\'' then ['\\', c] else if isVisible c then [c] else hidden c) ++ ['\'']

/-! ### For a shell -/

/-- Does a character always mean something to a shell? -/
def isSpecial (c : Char) : Bool := "!\"$&()*;<=>[^\x60|\\?".toList.contains c

/-- Does a character mean something to a shell where it stands: on its own, or at the front? -/
def isSpecialHere (isOnly isFirst : Bool) (c : Char) : Bool :=
  isSpecial c || c = ' ' || c = '\'' ||
    (isOnly && (c = '\x7b' || c = '\x7d')) || (isFirst && (c = '#' || c = '~'))

/-- May a character stand between double quotes next to a single one? -/
def fitsDoubleQuotes (isOnly isFirst : Bool) (c : Char) : Bool :=
  isVisible c && !isSpecial c &&
    (isOnly || (c != '\x7b' && c != '\x7d')) && (isFirst || (c != '#' && c != '~'))

/-- Does every character pass a test that depends on where it stands? -/
def allHere (test : Bool → Bool → Char → Bool) : Text → Bool
  | [] => true
  | c :: rest => test rest.isEmpty true c && rest.all (test false false)

/-- What stands between the outer quotes; `afterHidden` if what comes before is a run of characters that
cannot be seen. -/
def body (afterHidden : Bool) : Text → Text
  | [] => []
  | c :: rest =>
    if !isVisible c then
      (if afterHidden then [] else "'$'".toList) ++ hidden c ++ body true rest
    else if c = '\'' then "'\\''".toList ++ body false rest
    else (if afterHidden then "''".toList else []) ++ c :: body false rest

/-- A text that a shell reads back as it is; in quotes always, or only where they are needed. -/
def forShell (always : Bool) (t : Text) : Text :=
  let isPlain := allHere (fun isOnly isFirst c =>
    isVisible c && !isSpecialHere isOnly isFirst c) t
  if !always && !t.isEmpty && isPlain then t
  else if t.contains '\'' && allHere fitsDoubleQuotes t then '"' :: t ++ ['"']
  else '\'' :: body false t ++ ['\'']

end Rehearsal.Shell.Quoting
