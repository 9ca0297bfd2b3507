import Rehearsal.Machine.Tool.Filter
import Rehearsal.Shell.Quoting

/-!
# The programs of the machine

Beside the shell the machine has a few small programs. Most of them are filters: they read their
inputs one after another, make something of what they read, and write it, at once or in blocks.
A program is a value that says what it does next. It complains in the name by which it was called.
-/

namespace Rehearsal.Machine

open Shell (Text Quoting.shown Quoting.forShell)

/-- How a program complains of a file. -/
inductive Wording where
  /-- The name and the reason. -/
  | plain
  /-- It says whether the file could not be opened or not be read. -/
  | parts
  /-- It says that the file could not be opened. -/
  | backwards
  /-- It says that the file could not be read, and then gives up. -/
  | sorting
  /-- The name is never put in quotes. -/
  | turning
  deriving DecidableEq, Repr

/-- A filter at work. -/
structure Flow where
  /-- The name by which the program was called. -/
  name : String
  filter : Filter
  wording : Wording := .plain
  /-- The files still to be read; a dash is what the program is given as its input. -/
  inputs : List Text
  /-- The descriptor that is being read, and whether it has to be closed. -/
  current : Option (Nat × Bool) := none
  /-- Is output held back until a block is full? -/
  inBlocks : Bool := true
  /-- Output that is held back, newest first. -/
  held : List Bytes := []
  /-- Does every input begin with a title, and has one been written? -/
  titles : Option Bool := none
  /-- Is the output looked at first, and an input refused that is the output as well? -/
  guardsOutput : Bool := false
  /-- What is complained of at the end if the standard input could not be read. -/
  lastWords : Option String := none
  /-- Was the standard input one that cannot be read? -/
  badInput : Bool := false
  /-- Descriptors that get a copy of the output. -/
  copies : List Nat := []
  status : Nat := 0
  deriving Repr

/-- A change to the files of the machine. -/
inductive FileChange where
  | touch (makes : Bool)
  | makeDir (parents : Bool)
  | removeDir
  | remove (force recursive : Bool)
  /-- Give or take away the mark of files that can be run. -/
  | mark (runs : Option Bool)
  deriving Repr

/-- A program of the machine, as what it does next. -/
inductive Tool where
  | finish (status : Nat)
  /-- Write to a descriptor, in the name of a program. -/
  | write (name : String) (descriptor : Nat) (data : Bytes) (next : Tool)
  /-- Nothing for this many nanoseconds, or for ever. -/
  | pause (nanoseconds : Option Nat) (next : Tool)
  /-- The same bytes again and again. -/
  | endless (name : String) (data : Bytes)
  | flow (f : Flow)
  /-- Look at the sizes of all inputs before they are counted. -/
  | measure (style : CountStyle) (f : Flow)
  /-- Open these files for writing, then go on as a filter that writes to them too. -/
  | duplicate (append : Bool) (files : List Text) (f : Flow)
  | change (name : String) (c : FileChange) (files : List Text) (status : Nat)
  /-- End with a status that depends on the files. -/
  | condition (name : String) (bracketed : Bool) (words : List Text)
  deriving Inhabited

namespace Tool

/-- A message of a program. Its characters stand for bytes. -/
def message (name text : String) : Bytes := Text.toBytes (name ++ ": " ++ text ++ "\n").toList

/-- A program that complains and ends. -/
def complain (name text : String) (status : Nat) : Tool :=
  .write name 2 (message name text) (.finish status)

/-- A program that says how it is called, and ends with a status. -/
def misusedWith (status : Nat) (name text : String) : Tool :=
  complain name (text ++ "\nTry '" ++ name ++ " --help' for more information.") status

/-- A program that says how it is called. -/
def misused (name text : String) : Tool := misusedWith 1 name text

def print (name : String) (t : Text) (next : Tool) : Tool := .write name 1 (Text.toBytes t) next

/-- A name in a message, in quotes if it needs them. -/
def named (t : Text) : String := String.ofList (Quoting.forShell false t)

/-- A name in a message, in quotes. -/
def quoted (t : Text) : String := String.ofList (Quoting.forShell true t)

/-- An argument in a message, in quotes, with what cannot be seen written out. -/
def shown (t : Text) : String := String.ofList (Quoting.shown t)

end Tool

namespace Wording

/-- The standard input has a name of its own in some messages. -/
def inputName (t : Text) : Text := if t = ['-'] then "standard input".toList else t

/-- What a program says of a file that it cannot open. -/
def openMessage (w : Wording) (path : Text) (reason : String) : String :=
  match w with
  | .plain => Tool.named path ++ ": " ++ reason
  | .parts => "cannot open " ++ Tool.quoted path ++ " for reading: " ++ reason
  | .backwards => "failed to open " ++ Tool.quoted path ++ " for reading: " ++ reason
  | .sorting => "cannot read: " ++ Tool.named path ++ ": " ++ reason
  | .turning => "cannot open " ++ String.ofList path ++ ": " ++ reason

/-- What a program says of a file that it cannot read. -/
def readMessage (w : Wording) (path : Text) (reason : String) : String :=
  match w with
  | .plain => Tool.named path ++ ": " ++ reason
  | .parts => "error reading " ++ Tool.quoted (inputName path) ++ ": " ++ reason
  | .backwards => Tool.named (inputName path) ++ ": read error: " ++ reason
  | .sorting => "read failed: " ++ Tool.named path ++ ": " ++ reason
  | .turning => String.ofList path ++ ": " ++ reason

end Wording

end Rehearsal.Machine
