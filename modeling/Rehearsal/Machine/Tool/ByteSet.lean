import Rehearsal.Shell.Pattern
import Rehearsal.Shell.Printing

/-!
# Sets of bytes

A set of bytes is written as a text with ranges, classes, repetitions and sequences with a
backslash. Its bytes are in order, since one set may be replaced by another byte by byte.
-/

namespace Rehearsal.Machine.ByteSet

open Shell (Text)

/-- One byte at the front of a text. What follows a backslash stands for itself if it is no
sequence; of an octal number only what fits a byte counts. -/
def readOne (cs : Text) : Option (Char × Text) :=
  match cs with
  | [] => none
  | ['\\'] => some ('\\', [])
  | '\\' :: c :: rest =>
    if Shell.Numeral.isOctal c then
      let ds := ((c :: rest).take 3).takeWhile Shell.Numeral.isOctal
      let ds := if 256 ≤ Shell.Numeral.ofDigits 8 ds then ds.take 2 else ds
      some (Char.ofNat (Shell.Numeral.ofDigits 8 ds), (c :: rest).drop ds.length)
    else match if c = 'e' then none else Shell.Printing.letterEscape? c with
      | some d => some (d, rest)
      | none => some (c, rest)
  | c :: rest => some (c, rest)

/-- The bytes of a class. -/
def ofClass (name : Text) : Text :=
  let ranges := Shell.Pattern.classRanges (String.ofList name)
  ((List.range 256).map Char.ofNat).filter fun c => ranges.any fun (a, b) => a ≤ c && c ≤ b

/-- The bytes from one to another. -/
def range (a b : Char) : Text :=
  (List.range (b.toNat + 1 - a.toNat)).map fun i => Char.ofNat (a.toNat + i)

/-- A byte and how often it is repeated, between brackets; nothing stands for as often as is
needed. -/
def readRepeat (cs : Text) : Option (Char × Option Nat × Text) :=
  match readOne cs with
  | some (c, '*' :: rest) =>
    let ds := rest.takeWhile Char.isDigit
    match rest.drop ds.length with
    | ']' :: rest =>
      let n := if ds.head? = some '0' then Shell.Numeral.ofDigits 8 ds
        else Shell.Numeral.ofDigits 10 ds
      some (c, if n = 0 then none else some n, rest)
    | _ => none
  | _ => none

/-- A part of a set: bytes, or one byte as often as is needed. -/
inductive Item where
  | bytes (t : Text)
  | fill (c : Char)
  /-- A class that is named. -/
  | named (name t : Text)

/-- The name of a class or a byte between brackets and colons or equals signs. -/
def readBracket (mark : Char) (cs : Text) : Option (Text × Text) :=
  match cs with
  | '[' :: c :: rest =>
    if c = mark then
      let name := rest.takeWhile (· != mark)
      match rest.drop name.length with
      | d :: ']' :: rest => if d = mark then some (name, rest) else none
      | _ => none
    else none
  | _ => none

/-- The parts of a set, or what is wrong with it. -/
def readItems : Nat → Text → Except String (List Item)
  | 0, _ => .ok []
  | _ + 1, [] => .ok []
  | fuel + 1, cs => do
    if let some (name, rest) := readBracket ':' cs then
      if (Shell.Pattern.classRanges (String.ofList name)).isEmpty then
        throw ("invalid character class '" ++ String.ofList name ++ "'")
      return .named name (ofClass name) :: (← readItems fuel rest)
    if let some ([c], rest) := readBracket '=' cs then
      return .bytes [c] :: (← readItems fuel rest)
    let repeated := match cs with
      | '[' :: rest => readRepeat rest
      | _ => none
    match repeated with
    | some (c, none, rest) => return .fill c :: (← readItems fuel rest)
    | some (c, some n, rest) => return .bytes (List.replicate n c) :: (← readItems fuel rest)
    | none =>
      match readOne cs with
      | none => return []
      | some (c, '-' :: d :: rest) =>
        match readOne (d :: rest) with
        | some (d, rest) =>
          if d < c then
            throw ("range-endpoints of '" ++ String.ofList [c, '-', d] ++
              "' are in reverse collating sequence order")
          return .bytes (range c d) :: (← readItems fuel rest)
        | none => return [.bytes [c]]
      | some (c, rest) => return .bytes [c] :: (← readItems fuel rest)

/-- The parts of a set. -/
def read (t : Text) : Except String (List Item) := readItems (t.length + 1) t

/-- The bytes of parts, where a byte that is repeated as needed is repeated so often. -/
def bytesOf (needed : Nat) (items : List Item) : Bytes :=
  Text.toBytes (items.flatMap fun
    | .bytes t => t
    | .fill c => List.replicate needed c
    | .named _ t => t)

/-- A second set as long as the first: a byte that may be repeated fills it up, or its last byte
does. -/
def stretch (length : Nat) (items : List Item) : Bytes :=
  let filled := bytesOf (length - (bytesOf 0 items).length) items
  match filled.getLast? with
  | some b => filled ++ List.replicate (length - filled.length) b
  | none => []

end Rehearsal.Machine.ByteSet
