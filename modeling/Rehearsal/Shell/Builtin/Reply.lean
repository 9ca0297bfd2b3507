import Rehearsal.Shell.Condition
import Rehearsal.Shell.Unwinding

/-!
# How a command of the shell's own replies

Such a command changes what the shell remembers, and puts tasks on its stack: to write, to wait, to
complain. A mistake leaves everything up to the next shield; commands that are more than commands
have none around them, so that a mistake in one ends the shell.
-/

namespace Rehearsal.Shell

/-- A number that a command of the shell's own is given. -/
def numberOf (t : Text) : Except String Nat :=
  let illegal : Except String Nat := .error (Arithmetic.illegalNumber t)
  match Condition.number t with
  | .ok n => if n < 0 || (Nat.pow 2 31 : Int) ≤ n then illegal else .ok n.toNat
  | .error _ => illegal

/-- What is said of a name that no variable may have. -/
def badName (t : Text) : String := String.ofList t ++ ": bad variable name"

/-- The name and the value of an argument that assigns. -/
def splitAssignment (t : Text) : Text × Option Text :=
  match t.dropWhile (· != '=') with
  | _ :: value => (t.takeWhile (· != '='), some value)
  | [] => (t, none)

namespace Interpreter

/-- Complain of how the command under way is used. -/
def refuse (i : Interpreter) (text : String) : Interpreter := i.giveUp text

/-- Write to the standard output and go on with a status. -/
def print (i : Interpreter) (t : Text) (status : Nat) : Interpreter :=
  let command := String.ofList (i.memory.caller.getD [])
  i.push [.setStatus status, .write command 1 (Text.toBytes t)]

/-- Write to the standard error. -/
def warn (i : Interpreter) (t : Text) : Interpreter := i.push [.write "" 2 (Text.toBytes t)]

/-- Go on with what has been made of the arguments, or complain of them. -/
def withResult {α : Type} (i : Interpreter) (r : Except String α) (next : α → Interpreter) :
    Interpreter :=
  match r with
  | .ok a => next a
  | .error text => i.refuse text

/-- The same where the machine is needed. -/
def actWith {α : Type} {m : Type → Type} [Monad m] (i : Interpreter) (r : Except String α)
    (next : α → m Interpreter) : m Interpreter :=
  match r with
  | .ok a => next a
  | .error text => return i.refuse text

/-- Go on with the memory that a change gives. -/
def remember (i : Interpreter) (r : Except String Memory) : Interpreter :=
  i.withResult r fun memory => (i.withMemory memory).setStatus 0

end Interpreter

end Rehearsal.Shell
