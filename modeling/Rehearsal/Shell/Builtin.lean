import Rehearsal.Shell.Builtin.Control
import Rehearsal.Shell.Builtin.Signals
import Rehearsal.Shell.Builtin.Surroundings
import Rehearsal.Shell.Builtin.Variables

/-!
# Commands that the shell carries out itself

`builtin` is what such a command does to the shell, by its name. `exec` is not among them, since it
depends on how its words came about.
-/

namespace Rehearsal.Shell

open Machine (Act)

namespace Interpreter

/-- Carry out a command of the shell's own. -/
def builtin (i : Interpreter) (name : String) (args : List Text) : Act Interpreter := do
  match name with
  | "false" => return i.setStatus 1
  | "echo" => return i.print (Printing.echo .builtin args) 0
  | "printf" => return i.printFormat args
  | "test" => i.checkCondition false args
  | "[" => i.checkCondition true args
  | "read" => return i.read args
  | "exit" => return i.exit args
  | "return" => return i.leave args
  | "break" => return i.leaveLoops false args
  | "continue" => return i.leaveLoops true args
  | "eval" => return i.evaluate args
  | "." => i.runFile args
  | "export" | "readonly" => return i.declareVariables name args
  | "local" => return i.declareLocals args
  | "unset" => return i.forget args
  | "set" => return i.setSwitches args
  | "shift" => return i.shift args
  | "getopts" => return i.readOption args
  | "alias" => return i.nameAliases args
  | "unalias" => return i.forgetAliases args
  | "cd" | "chdir" => i.changeDirectory args
  | "pwd" => i.showDirectory args
  | "umask" => return i.changeMask args
  | "ulimit" => return i.showLimits args
  | "times" => return i.showTimes
  | "type" => i.describeAll args
  | "command" => i.describeOne args
  | "hash" => i.trackPrograms args
  | "trap" => i.trap args
  | "kill" => i.kill args
  | "jobs" => i.listJobs args
  | "fg" | "bg" => return i.moveJobs args
  | "wait" => return i.wait args
  | _ => return i.setStatus 0

end Interpreter

end Rehearsal.Shell
