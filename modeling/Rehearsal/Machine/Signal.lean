/-!
# Signals

The names and numbers of signals, what they do to a process that has not asked for anything else,
and what is said of a process that one of them ended. The number zero stands for no signal; as an
event it is the end of a shell.
-/

namespace Rehearsal.Machine.Signal

/-- The names of the signals in the order of their numbers, from zero on. Some have no name but
their number. -/
def names : List String :=
  ["EXIT", "HUP", "INT", "QUIT", "ILL", "TRAP", "ABRT", "BUS", "FPE", "KILL", "USR1", "SEGV",
    "USR2", "PIPE", "ALRM", "TERM", "16", "CHLD", "CONT", "STOP", "TSTP", "TTIN", "TTOU", "URG",
    "XCPU", "XFSZ", "VTALRM", "PROF", "WINCH", "IO", "PWR", "SYS", "32", "33", "RTMIN"] ++
  (List.range 15).map (fun n => "RTMIN+" ++ toString (n + 1)) ++
  (List.range 14).map (fun n => "RTMAX-" ++ toString (14 - n)) ++ ["RTMAX"]

/-- The name of a signal. -/
def name (n : Nat) : String := names.getD n (toString n)

/-- The number that digits stand for, if a signal has it. -/
def ofDigits? (t : List Char) : Option Nat :=
  if t.isEmpty || !t.all Char.isDigit then none
  else
    let n := t.foldl (fun n c => n * 10 + (c.toNat - '0'.toNat)) 0
    if n < names.length then some n else none

/-- The number of a signal by its number or its name, in small letters or in capitals. -/
def read? (t : List Char) : Option Nat :=
  match ofDigits? t with
  | some n => some n
  | none => names.findIdx? (· == (String.ofList t).toUpper)

/-- The signal that nobody can ignore. -/
def kill : Nat := 9

/-- The signal that a process gets when nobody reads what it writes. -/
def brokenPipe : Nat := 13

/-- The signal that ends a process if nothing else is said. -/
def terminate : Nat := 15

/-- The signal that a process gets when a child of its ends. -/
def childEnded : Nat := 17

/-- The signal after which a stopped process goes on. -/
def proceed : Nat := 18

/-- Does a process that has not asked for anything go on as if nothing had happened? -/
def isHarmless (n : Nat) : Bool := [0, 17, 18, 23, 28].contains n

/-- Does this signal stop a process without ending it? -/
def stops (n : Nat) : Bool := [19, 20, 21, 22].contains n

/-- Can a process not ignore this signal? -/
def isCompelling (n : Nat) : Bool := n = 9 || n = 19

/-- What a shell says when a signal ended its child, if it says anything. -/
def report? : Nat → Option String
  | 2 | 13 => none
  | 1 => some "Hangup"
  | 3 => some "Quit"
  | 4 => some "Illegal instruction"
  | 5 => some "Trace/breakpoint trap"
  | 6 => some "Aborted"
  | 7 => some "Bus error"
  | 8 => some "Floating point exception"
  | 9 => some "Killed"
  | 10 => some "User defined signal 1"
  | 11 => some "Segmentation fault"
  | 12 => some "User defined signal 2"
  | 14 => some "Alarm clock"
  | 15 => some "Terminated"
  | 16 => some "Stack fault"
  | 24 => some "CPU time limit exceeded"
  | 25 => some "File size limit exceeded"
  | 26 => some "Virtual timer expired"
  | 27 => some "Profiling timer expired"
  | 29 => some "I/O possible"
  | 30 => some "Power failure"
  | 31 => some "Bad system call"
  | n => if 34 ≤ n then some ("Real-time signal " ++ toString (n - 34))
    else some ("Unknown signal " ++ toString n)

end Rehearsal.Machine.Signal
