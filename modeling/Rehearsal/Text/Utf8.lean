import Rehearsal.Bytes

/-!
# Reading bytes as UTF-8 text

A decoder takes one byte at a time. Between bytes it remembers the character under way: the bits
gathered so far, how many continuation bytes are still owed, and the range the next one must lie
in. A byte outside that range ends the sequence under way, which is then malformed, and is looked
at again as a first byte. So every maximal malformed sequence is one mark, `none`, in the result.

`decodeLossy` puts U+FFFD for each mark; `decode?` refuses a text that has one.
-/

namespace Rehearsal.Utf8

/-- A character whose first bytes have been read. -/
structure Pending where
  /-- The bits gathered so far. -/
  value : Nat
  /-- How many continuation bytes are owed, not counting the next one. -/
  further : Nat
  /-- The least the next byte may be. -/
  low : UInt8
  /-- The greatest the next byte may be. -/
  high : UInt8

/-- What has been decoded, newest first, and the character under way. -/
structure Decoder where
  decoded : List (Option Char) := []
  pending : Option Pending := none

/-- A character decoded, or `none` for a malformed sequence. -/
def Decoder.emit (d : Decoder) (c : Option Char) : Decoder :=
  { decoded := c :: d.decoded, pending := none }

/-- Take a byte that begins a character. -/
def Decoder.start (d : Decoder) (b : UInt8) : Decoder :=
  let wait (bits : UInt8) (further : Nat) (low high : UInt8) : Decoder :=
    { d with pending := some ⟨bits.toNat, further, low, high⟩ }
  if b < 0x80 then d.emit (some (Char.ofNat b.toNat))
  else if b < 0xC2 then d.emit none
  else if b < 0xE0 then wait (b - 0xC0) 0 0x80 0xBF
  else if b = 0xE0 then wait (b - 0xE0) 1 0xA0 0xBF
  else if b = 0xED then wait (b - 0xE0) 1 0x80 0x9F
  else if b < 0xF0 then wait (b - 0xE0) 1 0x80 0xBF
  else if b = 0xF0 then wait (b - 0xF0) 2 0x90 0xBF
  else if b < 0xF4 then wait (b - 0xF0) 2 0x80 0xBF
  else if b = 0xF4 then wait (b - 0xF0) 2 0x80 0x8F
  else d.emit none

/-- Take one byte. -/
def Decoder.step (d : Decoder) (b : UInt8) : Decoder :=
  match d.pending with
  | none => d.start b
  | some p =>
    if p.low ≤ b && b ≤ p.high then
      let value := p.value * 64 + (b - 0x80).toNat
      match p.further with
      | 0 => d.emit (some (Char.ofNat value))
      | further + 1 => { d with pending := some ⟨value, further, 0x80, 0xBF⟩ }
    else (d.emit none).start b

/-- All that was decoded, oldest first; a sequence cut off by the end is malformed. -/
def Decoder.finish (d : Decoder) : List (Option Char) :=
  match d.pending with
  | none => d.decoded.reverse
  | some _ => (none :: d.decoded).reverse

/-- The characters of a byte string, with `none` for every maximal malformed sequence. -/
def decode (b : Bytes) : List (Option Char) := (b.foldl Decoder.step {}).finish

/-- The character that stands for a malformed sequence. -/
def replacement : Char := '\ufffd'

/-- The characters of a byte string, each malformed sequence shown as one U+FFFD. -/
def decodeLossy (b : Bytes) : List Char := (decode b).map (·.getD replacement)

/-- The characters of a byte string that is UTF-8 throughout. -/
def decode? (b : Bytes) : Option (List Char) := (decode b).mapM id

end Rehearsal.Utf8

namespace Rehearsal.Bytes

/-- The text of a byte string, each malformed sequence shown as one U+FFFD. -/
def toStringLossy (b : Bytes) : String := String.ofList (Utf8.decodeLossy b)

/-- The text of a byte string that is UTF-8 throughout. -/
def toString? (b : Bytes) : Option String := (Utf8.decode? b).map String.ofList

end Rehearsal.Bytes
