import Rehearsal.Shell.Expansion
import Rehearsal.Shell.Grammar
import Rehearsal.Shell.InputLine

/-!
# What a shell has still to do

A shell at work is what it remembers and a stack of tasks. The task on top is carried out first; it
may put others in its place. Since the stack is a value, a shell can be stopped between any two
tasks, wait, and be copied.
-/

namespace Rehearsal.Shell

/-- How a word of a command is expanded. -/
inductive WordUse where
  /-- Into the names of a loop. -/
  | fields
  /-- Into arguments; what comes before may make it one that assigns. -/
  | argument
  /-- Into the value of an assignment. -/
  | value
  /-- Into one text. -/
  | text
  deriving DecidableEq, Repr

/-- A simple command on its way to being run. -/
structure Invocation where
  arguments : List Text
  /-- Does the shell end with this command? -/
  isLast : Bool
  /-- What its trace is written to, if it is traced. -/
  traces : Option Nat := none
  /-- The variables that were assigned for it. -/
  assigned : List (Text × Text) := []

/-- What words are expanded for. -/
inductive Purpose where
  /-- To be the words of a simple command; does the shell end with it? -/
  | arguments (s : Simple) (isLast : Bool)
  /-- To be the targets of its redirections; its words are expanded. -/
  | targets (s : Simple) (isLast : Bool) (arguments : List Text)
  /-- To be the value of a variable; more assignments follow. -/
  | assignment (name : Text) (rest : List (Text × Word)) (v : Invocation)
  | loop (line : Nat) (name : Text) (body : Command)
  | subject (arms : List (List Word × Command)) (isLast : Bool)
  /-- To be the targets of a command's redirections. -/
  | redirects (c : Command) (rs : List Redirect) (isLast : Bool)

/-- A task. -/
inductive Task where
  /-- Run the rest of a source. Has anything of it been run? Does the shell end with it? -/
  | lines (s : Source) (ran endsShell : Bool)
  /-- Run what comes in through the standard input. -/
  | script (s : Source)
  /-- Run a command; does the shell end with it? -/
  | run (c : Command) (isLast : Bool)
  /-- Expand words. The first one is given the outputs of the commands in it that are there. -/
  | expand (todo : List (WordUse × Word)) (done : List Text) (outputs : List Text)
      (purpose : Purpose)
  /-- Look for the first arm with a pattern that fits; the first pattern is given the outputs of
  the commands in it that are there. -/
  | choose (subject : Text) (arms : List (List Word × Command)) (outputs : List Text)
      (isLast : Bool)
  /-- Read the output of a child, from a handle, to its end. -/
  | collect (handle child : Nat) (taken : List Bytes)
  /-- Run a simple command whose redirections and assignments have been made. -/
  | invoke (v : Invocation)
  | negate
  | conditional (rest : List (Bool × Command)) (isLast : Bool)
  /-- A test has been made: run one of two commands. -/
  | branch (body otherwise : Command) (isLast : Bool)
  /-- Make the test of a loop; the status is that of its body's last run. -/
  | loopTest (whileFails : Bool) (test body : Command) (status : Nat)
  /-- The test of a loop has been made. -/
  | loopBody (whileFails : Bool) (test body : Command) (status : Nat)
  /-- The body of a loop has run. -/
  | setLast (whileFails : Bool) (test body : Command)
  | forEach (name : Text) (values : List Text) (body : Command)
  /-- A command is over: put descriptors back to what they were, and the command under way. -/
  | restore (descriptors : List (Nat × Option Nat)) (caller : Option Text)
  /-- A function is over: put arguments, local variables and, if they are local, switches back. -/
  | leaveFunction (arguments : List Text) (options : Nat × Option Nat)
      (locals : List (Text × Option Variable)) (switches : Option (List Switch))
  | leaveSource
  /-- Put variables back that were assigned for one command. -/
  | restoreVariables (old : List (Text × Option Variable))
  /-- Wait for children; the status is that of the last one. -/
  | await (children : List Nat)
  /-- Wait for jobs, each of which is its processes. A signal may end the wait. The status may be
  that of the last one. -/
  | wait (jobs : List (List Nat)) (tellsStatus : Bool)
  | write (command : String) (descriptor : Nat) (data : Bytes)
  /-- Write to a handle. -/
  | trace (handle : Nat) (data : Bytes)
  /-- Read a line into variables. -/
  | readLine (raw : Bool) (names : List Text) (taken : InputLine)
  | setStatus (status : Nat)
  /-- A test is over: failures count as they did before it. -/
  | endTest (tested : Bool)
  /-- What was done about a signal is over: the status is what it was before. -/
  | endTrap (status : Nat) (before : Option Nat)
  /-- End the shell if the last command failed and failures do so. -/
  | checkFailure
  /-- Leave everything up to a shield, or end the shell. -/
  | fail
  /-- A mistake before this task does not end the shell. -/
  | shield
  /-- The shell was copied out of so many loops. -/
  | outside (loops : Nat)
  /-- The shell is ended by a signal. -/
  | perish (signal : Nat)
  | exit (status : Option Nat)

/-- A shell at work. -/
structure Interpreter where
  memory : Memory
  tasks : List Task
  /-- Is a failure of the command under way expected? -/
  tested : Bool := false
  /-- The signals that have come and of which nothing has been made. -/
  pending : List Nat := []
  /-- The status before the signal about which something is being done. -/
  beforeTrap : Option Nat := none

namespace Interpreter

/-- Put tasks on the stack, the first one on top. -/
def push (i : Interpreter) (ts : List Task) : Interpreter := { i with tasks := ts ++ i.tasks }

def withMemory (i : Interpreter) (memory : Memory) : Interpreter := { i with memory }

def setStatus (i : Interpreter) (status : Nat) : Interpreter :=
  { i with memory := { i.memory with status } }

/-- The handles that a shell means to come back to. -/
def heldHandles (i : Interpreter) : List Nat := i.tasks.flatMap fun
  | .restore descriptors _ => descriptors.filterMap (·.2)
  | .collect handle _ _ => [handle]
  | .trace handle _ => [handle]
  | .expand _ _ _ (.assignment _ _ v) | .invoke v => v.traces.toList
  | _ => []

/-- A message of the shell. Its characters stand for bytes. -/
def message (i : Interpreter) (text : String) : Bytes :=
  Text.toBytes (i.memory.name ++ ": ".toList ++ text.toList ++ ['\n'])

/-- The shell with another command of its own under way. -/
def calling (i : Interpreter) (caller : Option Text) : Interpreter :=
  { i with memory := { i.memory with caller } }

/-- A message of the shell about a line and the command under way. -/
def messageAt (i : Interpreter) (line : Nat) (text : String) : Bytes :=
  let caller := match i.memory.caller with
    | some name => String.ofList name ++ ": "
    | none => ""
  i.message (toString line ++ ": " ++ caller ++ text)

/-- A message of the shell about the line that it runs. -/
def lineMessage (i : Interpreter) (text : String) : Bytes := i.messageAt i.memory.line text

/-- Complain and go on with a status. -/
def complain (i : Interpreter) (text : String) (status : Nat) : Interpreter :=
  i.push [.write "" 2 (i.lineMessage text), .setStatus status]

/-- Complain and leave everything. -/
def giveUp (i : Interpreter) (text : String) : Interpreter :=
  i.push [.write "" 2 (i.lineMessage text), .setStatus 2, .fail]

/-- The source of commands in a text. -/
def sourceOf (i : Interpreter) (t : Text) : Source := { rest := t, aliases := i.memory.aliases }

end Interpreter

end Rehearsal.Shell
