import Rehearsal.Shell.Task

/-!
# Leaving what is under way

Loops, functions and sources are left by taking tasks off the stack. What puts something back to
what it was is kept, so that it happens on the way out.
-/

namespace Rehearsal.Shell

namespace Task

/-- Is this task kept when those around it are left? -/
def isKept : Task → Bool
  | .restore .. | .restoreVariables _ | .endTest _ => true
  | _ => false

def isLoop : Task → Bool
  | .loopTest .. | .loopBody .. | .setLast .. | .forEach .. => true
  | _ => false

def isFunction : Task → Bool
  | .leaveFunction .. => true
  | _ => false

/-- The loops under way in a stack of tasks; those around a function do not count in it. -/
def loops : List Task → Nat
  | [] => 0
  | .outside n :: _ => n
  | .leaveFunction .. :: _ => 0
  | t :: ts => (if isLoop t then 1 else 0) + loops ts

/-- Leave `n` loops, or go on with the last one of them. A copy of a shell leaves all that it has to
do if it leaves a loop that it was copied out of. -/
def leaveLoops (goOn : Bool) : Nat → List Task → List Task
  | _, [] => []
  | n, t :: ts =>
    match t with
    | .outside _ => ts
    | t =>
      if isLoop t then
        if 1 < n then leaveLoops goOn (n - 1) ts
        else if !goOn then ts
        else match t with
          | .loopBody whileFails test body status => .loopTest whileFails test body status :: ts
          | t => t :: ts
      else if isKept t then t :: leaveLoops goOn n ts
      else leaveLoops goOn n ts

/-- Leave the function or the source under way. -/
def leaveFrame : List Task → List Task
  | [] => []
  | t :: ts =>
    match t with
    | .leaveFunction .. | .leaveSource => t :: ts
    | t => if isKept t then t :: leaveFrame ts else leaveFrame ts

/-- Leave everything up to a shield. The second part says whether there was one. -/
def leaveUpToShield : List Task → List Task × Bool
  | [] => ([], false)
  | t :: ts =>
    match t with
    | .shield => (ts, true)
    | t =>
      let (left, found) := leaveUpToShield ts
      (if isKept t || isFunction t then t :: left else left, found)

/-- Remember the value that a variable has outside of the function under way. -/
def addLocal (name : Text) (old : Option Variable) : List Task → List Task
  | [] => []
  | .leaveFunction arguments options locals switches :: ts =>
    let locals := if locals.any (·.1 == name) then locals else (name, old) :: locals
    .leaveFunction arguments options locals switches :: ts
  | t :: ts => t :: addLocal name old ts

/-- Remember the switches that are on outside of the function under way. -/
def addSwitches (on : List Switch) : List Task → List Task
  | [] => []
  | .leaveFunction arguments options locals switches :: ts =>
    .leaveFunction arguments options locals (some (switches.getD on)) :: ts
  | t :: ts => t :: addSwitches on ts

end Task

end Rehearsal.Shell
