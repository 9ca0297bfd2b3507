import Rehearsal.CommandLine.Execution

/-!
# The program

Tests are played on a copy of some files, which are named on the standard input, one to a line and
seen from the current directory; a name that leads to no readable file counts as a directory. What
the run has changed is written back at its end, and what it has taken away is removed.
-/

namespace Rehearsal.Main

open CommandLine

/-- The lines that are left in a stream, without their ends. -/
partial def readLines (input : IO.FS.Stream) : IO (List String) := do
  let line ← input.getLine
  if line.isEmpty then return []
  return line.trimAsciiEnd.toString :: (← readLines input)

/-- Take what a name leads to into a copy. -/
def copy (t : FileTree) (name : String) : IO FileTree := do
  match ← (IO.FS.readBinFile name).toBaseIO with
  | .ok data => return (t.writeWithMkdir [] (.ofString name) data.toList).1
  | .error _ => return (t.mkdirAll [] (.ofString name)).1

/-- The name of a place, seen from the root of the copy. -/
def nameOf (place : Place) : String := "/".intercalate (place.map (·.toStringLossy))

/-- Write back what has changed. -/
def writeBack (old new : FileTree) : IO Unit := do
  for (place, _) in old.entries do
    if (new.lookup? place).isNone then discard (IO.FS.removeFile (nameOf place)).toBaseIO
  for (place, entry) in new.entriesNotIn old do
    match entry with
    | .dir => IO.FS.createDirAll (nameOf place)
    | .file contents => IO.FS.writeBinFile (nameOf place) ⟨contents.toArray⟩
    | .device _ | .program _ => pure ()

/-- The variables of the environment that may give a configuration. -/
def environment : IO (List (String × String)) := do
  let names := Config.Field.all.map fun f => Config.variableStart ++ f.key.toUpper
  let found ← names.mapM fun name => do return (← IO.getEnv name).map (name, ·)
  return found.filterMap id

/-- The terminal that the program writes to. -/
def terminal (output : IO.FS.Stream) : IO Terminal := do
  let refused := (← IO.getEnv "NO_COLOR").isSome
  return {
    color := (← output.isTty) && !refused
    trueColor := Terminal.isTrueColor (← IO.getEnv "COLORTERM") }

/-- How the program is called. -/
def usage : String :=
  "usage: rehearsal init [DIR]\n       rehearsal run [OPTIONS] [-- COMMAND...]\n" ++
    "       rehearsal step INPUT EXPECTED [OPTIONS] -- COMMAND..."

/-- Carry out a command line on the files that are named on the standard input. -/
def perform (invocation : Invocation) : IO UInt32 := do
  let output ← IO.getStdout
  let files ← (← readLines (← IO.getStdin)).foldlM copy {}
  let host : Host := { files, directory := [], environment := ← environment }
  let (result, scene) :=
    execute Host.stage (← terminal output) invocation { world := host, out := {} }
  output.write ⟨scene.out.contents.toArray⟩
  writeBack files scene.world.files
  match result with
  | .ok passed => return if passed then 0 else 1
  | .error failure =>
    if failure.breaksOff then
      IO.eprintln (": ".intercalate failure.chain)
      return 101
    IO.eprintln failure.report
    return 1

end Rehearsal.Main

def main (args : List String) : IO UInt32 := do
  match Rehearsal.CommandLine.parse args with
  | .ok request => Rehearsal.Main.perform request.invocation
  | .error e =>
    if e.isRequest then
      IO.println Rehearsal.Main.usage
      return 0
    else
      IO.eprintln ("error: " ++ e.message ++ "\n" ++ Rehearsal.Main.usage)
      return 2
