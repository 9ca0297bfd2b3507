/-!
# Byte strings and their lines

Everything that passes between a program and its script is a byte string: nothing here assumes
that the bytes are text. A line is a piece that ends in a newline byte; what follows the last
newline is not yet a line, and `splitLines` keeps it apart.

Main statements: `flatten_splitLines` (splitting loses nothing) and `splitFirstLine_append`
(taking one line off the front loses nothing).
-/

namespace Rehearsal

/-- A string of bytes. -/
abbrev Bytes := List UInt8

namespace Bytes

/-- The byte that ends a line. -/
def newline : UInt8 := 10

/-- The UTF-8 bytes of a list of characters. -/
def ofChars (cs : List Char) : Bytes := cs.flatMap String.utf8EncodeChar

/-- The UTF-8 bytes of a string. -/
def ofString (s : String) : Bytes := ofChars s.toList

@[simp] theorem ofChars_append (a b : List Char) : ofChars (a ++ b) = ofChars a ++ ofChars b := by
  simp [ofChars]

/-! ### Splitting into lines -/

/-- Put a byte in front of a byte string that is already split into its complete lines and the
rest after them. -/
def pushFront (b : UInt8) : List Bytes × Bytes → List Bytes × Bytes
  | ([], rest) => if b = newline then ([[b]], rest) else ([], b :: rest)
  | (line :: lines, rest) =>
    if b = newline then ([b] :: line :: lines, rest) else ((b :: line) :: lines, rest)

/-- The complete lines of a byte string, each with its newline, and what follows the last one. -/
def splitLines (data : Bytes) : List Bytes × Bytes := data.foldr pushFront ([], [])

/-- The pieces of a byte string: its lines, the last of which may lack its newline. -/
def lines (data : Bytes) : List Bytes :=
  let (complete, rest) := splitLines data
  if rest.isEmpty then complete else complete ++ [rest]

/-- The first piece of a byte string, up to and with its first newline, and the bytes after it. -/
def splitFirstLine (data : Bytes) : Bytes × Bytes :=
  match data.dropWhile (· != newline) with
  | [] => (data, [])
  | b :: rest => (data.takeWhile (· != newline) ++ [b], rest)

@[simp] theorem splitLines_nil : splitLines [] = ([], []) := rfl

theorem splitLines_cons (b : UInt8) (data : Bytes) :
    splitLines (b :: data) = pushFront b (splitLines data) := rfl

theorem flatten_pushFront (b : UInt8) (p : List Bytes × Bytes) :
    (pushFront b p).1.flatten ++ (pushFront b p).2 = b :: (p.1.flatten ++ p.2) := by
  obtain ⟨lines, rest⟩ := p
  cases lines <;> (simp only [pushFront]; split <;> simp)

/-- Splitting loses nothing and keeps the order. -/
theorem flatten_splitLines (data : Bytes) :
    (splitLines data).1.flatten ++ (splitLines data).2 = data := by
  induction data with
  | nil => rfl
  | cons b data ih => rw [splitLines_cons, flatten_pushFront, ih]

/-- Taking the first line off the front loses nothing. -/
theorem splitFirstLine_append (data : Bytes) :
    (splitFirstLine data).1 ++ (splitFirstLine data).2 = data := by
  have h : data.takeWhile (· != newline) ++ data.dropWhile (· != newline) = data :=
    List.takeWhile_append_dropWhile
  unfold splitFirstLine
  split
  · simp
  · next heq => rw [heq] at h; simpa using h

end Bytes

end Rehearsal
