import Rehearsal.Files.Tree
import Rehearsal.Json

/-!
# Reading and writing files

The operations that the rest of the library uses on files. Each is given the tree and the current
directory, gives back the tree as it is afterwards, and says in its error which path was meant.
A write may first make the directories on the way; these stay even if the write then fails.
-/

namespace Rehearsal

/-- What was tried when an operation failed. -/
inductive FileAction where
  | createDir
  | writeFile
  | createFile
  | readFile
  | readDir
  deriving DecidableEq, Repr

def FileAction.message : FileAction → String
  | .createDir => "Cannot create dir"
  | .writeFile => "Cannot write file"
  | .createFile => "Cannot create file"
  | .readFile => "Cannot read file"
  | .readDir => "Cannot read dir"

/-- Why reading or writing failed, with the path that was meant. -/
inductive FileError where
  | io (action : FileAction) (path : Path) (cause : IoError)
  | alreadyExists (path : Path)
  /-- The data have no JSON text. -/
  | unserializable (path : Path) (cause : String)
  deriving DecidableEq, Repr

namespace FileError

def path : FileError → Path
  | .io _ path _ | .alreadyExists path | .unserializable path _ => path

def message : FileError → String
  | .io action path cause => action.message ++ " (" ++ path.display ++ "): " ++ cause.message
  | .alreadyExists path => "File already exists: " ++ path.display
  | .unserializable path cause =>
    "Cannot serialize to JSON (dest='" ++ path.display ++ "'): " ++ cause

/-- The error and what it was caused by, outermost first. -/
def chain (e : FileError) : List String :=
  match e with
  | .io _ _ cause => [e.message, cause.message]
  | .alreadyExists _ => [e.message]
  | .unserializable _ cause => [e.message, cause]

end FileError

namespace FileTree

/-- What a change to a tree gives: the tree afterwards, and the error if there was one. -/
abbrev Change := FileTree × Except FileError Unit

/-- Make one directory, or find that it is there already. -/
def ensureDir (t : FileTree) (cwd : Place) (p : Path) : FileTree × Except IoError Unit :=
  match t.makeDir cwd p with
  | .ok t => (t, .ok ())
  | .error e => (t, if t.isDir cwd p then .ok () else .error e)

/-- Make a directory and, where they are missing, those above it, from the top down. The list
holds the directory and its ancestors. -/
def makeDirs (t : FileTree) (cwd : Place) : List Path → FileTree × Except IoError Unit
  | [] => (t, .ok ())
  | p :: above =>
    if p.raw.isEmpty then (t, .ok ())
    else match t.makeDir cwd p with
      | .ok t => (t, .ok ())
      | .error .notFound =>
        match makeDirs t cwd above with
        | (t, .ok ()) => t.ensureDir cwd p
        | failed => failed
      | .error e => (t, if t.isDir cwd p then .ok () else .error e)

/-- Make a directory and those above it. -/
def mkdirAll (t : FileTree) (cwd : Place) (p : Path) : Change :=
  match t.makeDirs cwd p.ancestors with
  | (t, .ok ()) => (t, .ok ())
  | (t, .error e) => (t, .error (.io .createDir p e))

/-- Make the directory that a file is to lie in. -/
def mkdirFor (t : FileTree) (cwd : Place) (p : Path) : Change :=
  match p.parent? with
  | some dir => t.mkdirAll cwd dir
  | none => (t, .ok ())

/-- Write a file over what it held. -/
def write (t : FileTree) (cwd : Place) (p : Path) (contents : Bytes) : Change :=
  match t.putFile cwd p contents false with
  | .ok t => (t, .ok ())
  | .error e => (t, .error (.io .writeFile p e))

/-- Write a file and make the directories on the way. -/
def writeWithMkdir (t : FileTree) (cwd : Place) (p : Path) (contents : Bytes) : Change :=
  match t.mkdirFor cwd p with
  | (t, .ok ()) => t.write cwd p contents
  | failed => failed

/-- Write a new file; nothing may be there yet. -/
def writeNew (t : FileTree) (cwd : Place) (p : Path) (contents : Bytes) : Change :=
  if t.isReachable cwd p then (t, .error (.alreadyExists p))
  else match t.mkdirFor cwd p with
    | (t, .ok ()) =>
      match t.putFile cwd p contents true with
      | .ok t => (t, .ok ())
      | .error e => (t, .error (.io .createFile p e))
    | failed => failed

/-- The contents of a file. -/
def read (t : FileTree) (cwd : Place) (p : Path) : Except FileError Bytes :=
  (t.readFile cwd p).mapError (.io .readFile p)

/-- The contents of a text file. -/
def readText (t : FileTree) (cwd : Place) (p : Path) : Except FileError String := do
  match (← t.read cwd p).toString? with
  | some text => return text
  | none => .error (.io .readFile p .notUtf8)

/-- The entries of a directory. -/
def list (t : FileTree) (cwd : Place) (p : Path) : Except FileError (List (Bytes × Entry)) :=
  (t.readDir cwd p).mapError (.io .readDir p)

/-- Write a JSON document and make the directories on the way. The text is made first, so data
that have none leave the tree as it was. -/
def writeJsonWithMkdir (t : FileTree) (cwd : Place) (p : Path) (data : Except String Json) :
    Change :=
  match data with
  | .ok j => t.writeWithMkdir cwd p (.ofString j.pretty)
  | .error cause => (t, .error (.unserializable p cause))

end FileTree

end Rehearsal
