import Rehearsal.IoError
import Rehearsal.Path

/-!
# A tree of files

A tree is a finite map from places to entries, a place being the names on the way down from the
root. The root is always a directory. Paths are followed name by name, as a file system does: `.`
stays, `..` goes up, every name but the last must be a directory, and a trailing slash demands a
directory.

Beside files and directories a tree has devices, which keep nothing that is written to them, and
programs, which can be run but have no contents of interest. A file can be run once it is marked.

`lookup?` is the view of a tree; `insert` is the only way in which something comes into one.
-/

namespace Rehearsal

/-- The names on the way from the root to a file or directory. -/
abbrev Place := List Bytes

/-- A device. -/
inductive Device where
  /-- Takes everything and has nothing. -/
  | null
  /-- Takes everything and has zeros without end. -/
  | zeros
  /-- Takes nothing and has zeros without end. -/
  | full
  /-- Cannot be opened by a process that no one sits in front of. -/
  | terminal
  /-- Leads to a descriptor of the process that opens it. -/
  | descriptor (n : Nat)
  deriving DecidableEq, Repr

/-- What is at a place. -/
inductive Entry where
  | file (contents : Bytes)
  | dir
  | device (d : Device)
  /-- A program of the machine, by its name. -/
  | program (name : String)
  deriving DecidableEq, Repr

namespace Entry

/-- Is this a file with contents, as opposed to a directory or a device? -/
def isRegular : Entry → Bool
  | .file _ | .program _ => true
  | .dir | .device _ => false

/-- What is read from an entry. -/
def contents : Entry → Except IoError Bytes
  | .file contents => .ok contents
  | .dir => .error .isADirectory
  | .device .terminal => .error .noDevice
  | .device _ | .program _ => .ok []

/-- What an entry is after everything in it was replaced. -/
def overwrite (contents : Bytes) : Entry → Except IoError Entry
  | .file _ => .ok (.file contents)
  | .dir => .error .isADirectory
  | .device .terminal => .error .noDevice
  | .device .full => if contents.isEmpty then .ok (.device .full) else .error .noSpace
  | .device d => .ok (.device d)
  | .program _ => .error .textFileBusy

end Entry

/-- A tree of files below a root directory. -/
structure FileTree where
  entries : List (Place × Entry) := []
  /-- The files that can be run. -/
  executable : List Place := []
  deriving Repr, Inhabited

namespace FileTree

/-- What is at a place, if anything. -/
def lookup? (t : FileTree) (place : Place) : Option Entry :=
  if place = [] then some .dir else t.entries.lookup place

/-- Put an entry at a place, over what was there. -/
def insert (t : FileTree) (place : Place) (entry : Entry) : FileTree :=
  { t with entries :=
      if t.entries.any (·.1 == place) then
        t.entries.map fun e => if e.1 == place then (place, entry) else e
      else t.entries ++ [(place, entry)] }

/-- Take away what is at a place and below it. -/
def erase (t : FileTree) (place : Place) : FileTree where
  entries := t.entries.filter fun e => !place.isPrefixOf e.1
  executable := t.executable.filter fun p => !place.isPrefixOf p

/-- Mark what is at a place as something that can be run, or as something that cannot. -/
def setExecutable (t : FileTree) (place : Place) (runs : Bool) : FileTree :=
  let others := t.executable.filter (· != place)
  { t with executable := if runs then place :: others else others }

/-- Can what is at a place be run? -/
def canRun (t : FileTree) (place : Place) : Bool :=
  match t.lookup? place with
  | some (.program _) => true
  | some (.file _) => t.executable.contains place
  | _ => false

/-- The entries that another tree does not have, or has otherwise. -/
def entriesNotIn (t old : FileTree) : List (Place × Entry) :=
  t.entries.filter fun (place, entry) => old.lookup? place != some entry

/-- Is there a directory at a place? -/
def hasDir (t : FileTree) (place : Place) : Bool := t.lookup? place == some .dir

/-- The names directly below a place, with what is there. -/
def children (t : FileTree) (place : Place) : List (Bytes × Entry) :=
  t.entries.filterMap fun (p, entry) =>
    match p.getLast? with
    | some name => if p.dropLast == place then some (name, entry) else none
    | none => none

/-! ### Following paths -/

/-- The greatest length of a name. -/
def maxName : Nat := 255

/-- The length from which on a path is refused. -/
def maxPath : Nat := 4096

/-- Follow one name. -/
def follow (t : FileTree) (place : Place) (name : Bytes) : Except IoError Place :=
  if !t.hasDir place then .error .notADirectory
  else if Path.isDot name then .ok place
  else if Path.isDotDot name then .ok place.dropLast
  else if maxName < name.length then .error .nameTooLong
  else match t.lookup? (place ++ [name]) with
    | some _ => .ok (place ++ [name])
    | none => .error .notFound

/-- Refuse a path that no file system takes. -/
def checkPath (p : Path) : Except IoError Unit :=
  if p.raw.contains 0 then .error .nulInPath
  else if p.raw.isEmpty then .error .notFound
  else if maxPath ≤ p.raw.length then .error .nameTooLong
  else .ok ()

/-- Where a path starts. -/
def origin (cwd : Place) (p : Path) : Place := if p.isAbsolute then [] else cwd

def hasTrailingSlash (p : Path) : Bool := p.raw.getLast? == some Path.slash

/-- The place that a path leads to. -/
def resolve (t : FileTree) (cwd : Place) (p : Path) : Except IoError Place := do
  checkPath p
  let place ← p.names.foldlM t.follow (origin cwd p)
  if hasTrailingSlash p && !t.hasDir place then .error .notADirectory
  else return place

/-- Where a path would put a new entry. -/
inductive Target where
  /-- The path names the root, or ends in `.` or `..`. -/
  | special
  /-- The path ends in a name inside an existing directory. -/
  | named (parent : Place) (name : Bytes)

/-- The place for a new entry: all but the last name of the path are followed. -/
def target (t : FileTree) (cwd : Place) (p : Path) : Except IoError Target := do
  checkPath p
  match p.names.getLast? with
  | none => return .special
  | some name =>
    let parent ← p.names.dropLast.foldlM t.follow (origin cwd p)
    if !t.hasDir parent then .error .notADirectory
    else if Path.isDot name || Path.isDotDot name then return .special
    else return .named parent name

/-! ### Reading -/

def isFile (t : FileTree) (cwd : Place) (p : Path) : Bool :=
  match t.resolve cwd p with
  | .ok place => (t.lookup? place).any Entry.isRegular
  | .error _ => false

def isDir (t : FileTree) (cwd : Place) (p : Path) : Bool :=
  match t.resolve cwd p with
  | .ok place => t.hasDir place
  | .error _ => false

/-- Is anything reachable at this path? -/
def isReachable (t : FileTree) (cwd : Place) (p : Path) : Bool := (t.resolve cwd p).toBool

/-- The contents of a file. -/
def readFile (t : FileTree) (cwd : Place) (p : Path) : Except IoError Bytes := do
  match t.lookup? (← t.resolve cwd p) with
  | some entry => entry.contents
  | none => .error .notFound

/-- The names in a directory, with what they lead to, in no particular order. -/
def readDir (t : FileTree) (cwd : Place) (p : Path) : Except IoError (List (Bytes × Entry)) := do
  let place ← t.resolve cwd p
  if t.hasDir place then return t.children place else .error .notADirectory

/-! ### Writing -/

/-- Make one directory. -/
def makeDir (t : FileTree) (cwd : Place) (p : Path) : Except IoError FileTree := do
  match ← t.target cwd p with
  | .special => .error .alreadyExists
  | .named parent name =>
    if maxName < name.length then .error .nameTooLong
    else if (t.lookup? (parent ++ [name])).isSome then .error .alreadyExists
    else return t.insert (parent ++ [name]) .dir

/-- Put contents into a file, which is made if it is missing. With `fresh`, the file must be
missing. -/
def putFile (t : FileTree) (cwd : Place) (p : Path) (contents : Bytes) (fresh : Bool) :
    Except IoError FileTree := do
  match ← t.target cwd p with
  | .special => .error (if fresh then .alreadyExists else .isADirectory)
  | .named parent name =>
    if hasTrailingSlash p then .error .isADirectory
    else if maxName < name.length then .error .nameTooLong
    else match t.lookup? (parent ++ [name]) with
      | none => return t.insert (parent ++ [name]) (.file contents)
      | some entry =>
        if fresh then .error .alreadyExists
        else return t.insert (parent ++ [name]) (← entry.overwrite contents)

/-! ### The view after a change -/

theorem lookup_cons_ne {place : Place} {e : Place × Entry} {rest : List (Place × Entry)}
    (h : e.1 ≠ place) : (e :: rest).lookup place = rest.lookup place := by
  obtain ⟨p, x⟩ := e
  have : (place == p) = false := by simpa using fun hp => h hp.symm
  rw [List.lookup_cons, this]

end FileTree

end Rehearsal
