import Rehearsal.Files.Tree
import Rehearsal.Shell.Pattern

/-!
# File names for patterns

A field with pattern characters stands for the paths that fit it, in order. A field that no path
fits stands for itself. A name that begins with a dot has to be asked for by a dot.
-/

namespace Rehearsal.Shell

/-- The text of some glyphs. -/
def textOf (glyphs : List Glyph) : Text := glyphs.map (·.1)

/-- A field's pieces between slashes. -/
def splitSlashes (glyphs : List Glyph) : List (List Glyph) :=
  glyphs.foldr (fun g pieces =>
    if g.1 = '/' then [] :: pieces
    else match pieces with
      | piece :: pieces => (g :: piece) :: pieces
      | [] => [[g]]) [[]]

/-- The path of a name in a directory, whose path is empty or ends in a slash. -/
def below (dir name : Text) (isLast : Bool) : Text :=
  dir ++ name ++ if isLast then [] else ['/']

/-- The paths that begin with a directory's and go on as some pieces say. -/
def matchPieces (t : FileTree) (cwd : Place) (dir : Text) : List (List Glyph) → List Text
  | [] => [dir]
  | piece :: pieces =>
    let isLast := pieces.isEmpty
    if !Pattern.hasWildcard piece then
      let path := below dir (Pattern.plainText piece) isLast
      if t.isReachable cwd ⟨Text.toBytes path⟩ then matchPieces t cwd path pieces else []
    else
      let pattern := Pattern.read piece
      let here : Path := ⟨if dir.isEmpty then [Path.dot] else Text.toBytes dir⟩
      match t.readDir cwd here with
      | .error _ => []
      | .ok entries =>
        let all := ['.'] :: ['.', '.'] :: entries.map fun e => Text.ofBytes e.1
        let names := all.filter fun name =>
          pattern.fits name && (name.head? != some '.' || (textOf piece).head? == some '.')
        let sorted := names.mergeSort fun a b => !decide (b < a)
        sorted.flatMap fun name => matchPieces t cwd (below dir name isLast) pieces

/-- What a field stands for. -/
def fileNames (t : FileTree) (cwd : Place) (glyphs : List Glyph) : List Text :=
  if !Pattern.hasWildcard glyphs then [textOf glyphs]
  else match matchPieces t cwd [] (splitSlashes glyphs) with
    | [] => [textOf glyphs]
    | paths => paths

end Rehearsal.Shell
