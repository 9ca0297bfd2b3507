import Rehearsal.Machine.Process
import Rehearsal.Machine.Tool.Start
import Rehearsal.Shell.Start

/-!
# Finding programs

A command line names the program that it starts: by a path, or by a name that is looked for in the
directories of a search path. What is found is one of the machine's own programs, or a file that can
be run, whose first line says what runs it.
-/

namespace Rehearsal.Machine

open Shell (Text)

def isShell (name : String) : Bool := ["sh", "dash", "bash"].contains name

/-- The names of the programs of the machine. -/
def programNames : List String := ["sh", "dash", "bash", "env"] ++ Tool.names

/-- The directories and devices of a machine, and its programs. -/
def systemFiles : FileTree :=
  let place (path : String) : Place := (Path.ofString path).names
  let dirs := ["/bin", "/dev", "/dev/fd", "/etc", "/tmp", "/usr", "/usr/bin"].map (·, Entry.dir)
  let devices : List (String × Entry) := [
    ("/dev/null", .device .null), ("/dev/zero", .device .zeros), ("/dev/full", .device .full),
    ("/dev/tty", .device .terminal), ("/dev/stdin", .device (.descriptor 0)),
    ("/dev/stdout", .device (.descriptor 1)), ("/dev/stderr", .device (.descriptor 2)),
    ("/dev/fd/0", .device (.descriptor 0)), ("/dev/fd/1", .device (.descriptor 1)),
    ("/dev/fd/2", .device (.descriptor 2))]
  let programs := programNames.flatMap fun name =>
    [("/bin/" ++ name, Entry.program name), ("/usr/bin/" ++ name, .program name)]
  { entries := (dirs ++ devices ++ programs).map fun (path, entry) => (place path, entry) }

/-- What a command word leads to. -/
inductive Found where
  | program (name : String)
  /-- A file that can be run. -/
  | script

/-- What a path leads to, if it can be run. -/
def atPath (files : FileTree) (cwd : Place) (path : Text) : Except IoError Found := do
  let place ← files.resolve cwd ⟨Text.toBytes path⟩
  match files.lookup? place with
  | some (.program name) => return .program name
  | _ => if files.canRun place then return .script else throw .permissionDenied

/-- Look for a name in some directories; what is found comes with its path. What cannot be run does
not end the search, but is remembered. -/
def searchFor (files : FileTree) (cwd : Place) (word : Text) : IoError → List Text →
    Except IoError (Text × Found)
  | failure, [] => .error failure
  | failure, dir :: dirs =>
    let path := if dir.isEmpty then word else dir ++ '/' :: word
    match atPath files cwd path with
    | .ok found => .ok (path, found)
    | .error .permissionDenied => searchFor files cwd word .permissionDenied dirs
    | .error _ => searchFor files cwd word failure dirs

/-- What the first word of a command line leads to, with its path. -/
def findProgram (files : FileTree) (cwd : Place) (searchPath word : Text) :
    Except IoError (Text × Found) :=
  if word.contains '/' then return (word, ← atPath files cwd word)
  else if word.isEmpty then .error .notFound
  else if FileTree.maxName < word.length then .error .nameTooLong
  else searchFor files cwd word .notFound (Text.pieces ':' searchPath)

/-- Take assignments off the front of a command line. -/
def splitAssignments (environment : List (Text × Text)) :
    List Text → List (Text × Text) × List Text
  | [] => (environment, [])
  | w :: ws =>
    match w.dropWhile (· != '=') with
    | _ :: value =>
      splitAssignments (Shell.Memory.put environment (w.takeWhile (· != '=')) value) ws
    | [] => if w = ['-', 'i'] then splitAssignments [] ws else (environment, w :: ws)

/-- The words of a file's first line that say what runs it. -/
def interpreterLine? (contents : Bytes) : Option (List Text) :=
  match Text.ofBytes (contents.takeWhile (· != Bytes.newline)) with
  | '#' :: '!' :: line =>
    let isBlank (c : Char) : Bool := c == ' ' || c == '\t'
    let line := line.dropWhile isBlank
    let word := line.takeWhile (!isBlank ·)
    let rest := ((line.dropWhile (!isBlank ·)).dropWhile isBlank).reverse.dropWhile isBlank
    if word.isEmpty then none
    else some (word :: if rest.isEmpty then [] else [rest.reverse])
  | _ => none

/-- The search path of an environment. -/
def searchPathOf (environment : List (Text × Text)) : Text :=
  (environment.lookup "PATH".toList).getD Shell.standardPath

/-- The program that a command line starts. It is told the number of its process. A shell runs
files that do not say what runs them; others do not. -/
def start (files : FileTree) (cwd : Place) (byShell : Bool) :
    Nat → Text → List Text → List (Text × Text) → Except IoError (Nat → Program)
  | 0, _, _, _ | _, _, [], _ => .error .notFound
  | fuel + 1, searchPath, word :: args, environment =>
    if (word :: args).any (·.contains '\x00') then .error .nulInArgument
    else do
      match ← findProgram files cwd searchPath word with
      | (path, .script) =>
        match interpreterLine? (← files.readFile cwd ⟨Text.toBytes path⟩) with
        | some command =>
          start files cwd false fuel searchPath (command ++ path :: args) environment
        | none =>
          if byShell then
            start files cwd false fuel searchPath ("/bin/sh".toList :: path :: args) environment
          else throw .execFormat
      | (_, .program name) =>
        if isShell name then
          let open? (path : Text) := files.readFile cwd ⟨Text.toBytes path⟩
          return fun id => .shell (Shell.start word args environment id cwd open?)
        else if name = "env" then
          let (environment, rest) := splitAssignments environment args
          match rest with
          | [] =>
            let text := environment.flatMap fun (name, value) => name ++ '=' :: value ++ ['\n']
            return fun _ => .tool (.print name text (.finish 0))
          | word :: _ =>
            match start files cwd true fuel (searchPathOf environment) rest environment with
            | .ok program => return program
            | .error e =>
              let status := if e == .notFound then 127 else 126
              let text := "'" ++ String.ofList word ++ "': " ++ e.reason
              return fun _ => .tool (.complain name text status)
        else match Tool.start? name (String.ofList word) args with
          | some t => return fun _ => .tool t
          | none => throw .notFound

/-- The program that a command line starts, with programs looked for along a search path. -/
def startProgram (files : FileTree) (cwd : Place) (byShell : Bool) (searchPath : Text)
    (command : List Text) (environment : List (Text × Text)) : Except IoError (Nat → Program) :=
  start files cwd byShell (command.length + 16) searchPath command environment

end Rehearsal.Machine
