import Rehearsal.Text.Utf8

/-!
# File paths

A path is a byte string in which slashes separate names. Reading a path as names, repeated
slashes count once, a trailing slash counts for nothing, and a dot stands for nothing unless it
comes first; `..` is kept, since what it means depends on the files.

`parent?` and `join` work on the text of a path, so that a path built from another one reads as
its user wrote it.
-/

namespace Rehearsal

/-- A path, as its bytes. -/
structure Path where
  raw : Bytes
  deriving DecidableEq, Repr, Inhabited

namespace Path

def slash : UInt8 := 47

def dot : UInt8 := 46

def ofString (s : String) : Path := ⟨.ofString s⟩

/-- A path as shown to the reader. -/
def display (p : Path) : String := p.raw.toStringLossy

def isAbsolute (p : Path) : Bool := p.raw.head? == some slash

/-- The names between the slashes, empty ones left out. -/
def names (p : Path) : List Bytes :=
  (p.raw.splitBy fun a b => a != slash && b != slash).filter fun n => n != [slash]

/-- Is this name `.`? -/
def isDot (name : Bytes) : Bool := name == [dot]

/-- Is this name `..`? -/
def isDotDot (name : Bytes) : Bool := name == [dot, dot]

/-- Drop what counts for nothing at the end of a path: slashes, and dots that are names after
one. The path is given and returned backwards. -/
def trimEnd : Bytes → Bytes
  | 46 :: 47 :: rest => trimEnd (47 :: rest)
  | 47 :: a :: rest => trimEnd (a :: rest)
  | rest => rest

/-- The path of the directory that a path lies in, by its text; none for a path without names. -/
def parent? (p : Path) : Option Path :=
  let trimmed := trimEnd p.raw.reverse
  if trimmed.isEmpty || trimmed == [slash] then none
  else
    let before := trimmed.dropWhile (· != slash)
    let body := trimEnd before
    some ⟨if body.isEmpty && !before.isEmpty then [slash] else body.reverse⟩

/-- The path itself, its parent, the parent of that, and so on. -/
def ancestors (p : Path) : List Path := go (p.raw.length + 1) p
where
  go : Nat → Path → List Path
    | 0, p => [p]
    | fuel + 1, p => p :: (p.parent?.map (go fuel)).getD []

/-- A path inside a directory; an absolute path stays as it is. -/
def join (dir p : Path) : Path :=
  if p.isAbsolute then p
  else if dir.raw.isEmpty || dir.raw.getLast? == some slash then ⟨dir.raw ++ p.raw⟩
  else ⟨dir.raw ++ slash :: p.raw⟩

/-- The name of the file that a path leads to; none if the path ends in `..`, or has no name. -/
def fileName? (p : Path) : Option Bytes :=
  match (p.names.filter (!isDot ·)).getLast? with
  | some name => if isDotDot name then none else some name
  | none => none

/-- The file name without what follows its last dot, unless that dot comes first. -/
def fileStem? (p : Path) : Option Bytes :=
  p.fileName?.map fun name =>
    let extension := name.reverse.takeWhile (· != dot)
    if extension.length + 1 < name.length then name.take (name.length - extension.length - 1)
    else name

end Path

end Rehearsal
