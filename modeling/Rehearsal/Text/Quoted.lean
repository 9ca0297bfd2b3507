import Rehearsal.Text.Utf8
import Rehearsal.Text.Unshown

/-!
# Quoted text

A quoted text is one line that shows every character of the text it stands for. It begins and
ends with a double quote; inside, the double quote and the backslash are marked by a backslash,
four common control characters have a letter, and a character that cannot be shown as itself is
written by its number, `\u` and the hexadecimal digits in braces.
-/

namespace Rehearsal.Quoted

/-- The hexadecimal digits of a number, lower case, without leading zeros. -/
def hexDigits (n : Nat) : List Char := Nat.toDigits 16 n

/-- One character as it stands between the quotes. -/
def escape (c : Char) : List Char :=
  if c = '"' then ['\\', '"']
  else if c = '\\' then ['\\', '\\']
  else if c = '\n' then ['\\', 'n']
  else if c = '\r' then ['\\', 'r']
  else if c = '\t' then ['\\', 't']
  else if c = Char.ofNat 0 then ['\\', '0']
  else if isUnshown c then ['\\', 'u', '\x7b'] ++ hexDigits c.toNat ++ ['\x7d']
  else [c]

/-- What stands between the quotes. -/
def encode (cs : List Char) : List Char := cs.flatMap escape

/-- A text in quotes. -/
def quote (cs : List Char) : List Char := '"' :: encode cs ++ ['"']

end Rehearsal.Quoted

namespace Rehearsal

/-- A string in quotes. -/
def quoteString (s : String) : String := String.ofList (Quoted.quote s.toList)

/-- A byte string in quotes, each malformed sequence shown as one U+FFFD. -/
def quoteBytes (b : Bytes) : String := String.ofList (Quoted.quote (Utf8.decodeLossy b))

end Rehearsal
