import Rehearsal.Machine.Program
import Rehearsal.Machine.Tool.Step
import Rehearsal.Shell.Builtin.Reply
import Rehearsal.Shell.Printing.Format

/-!
# Commands that say what is done next, and that read, write and test

`exit`, `return`, `break`, `continue`, `eval`, `.`; `read`, `printf`, `test`.
-/

namespace Rehearsal.Shell

open Machine (Act)

namespace Interpreter

/-- `exit`: end the shell, in what is done about a signal with the status from before it. -/
def exit (i : Interpreter) (args : List Text) : Interpreter :=
  match args with
  | [] => i.push [.exit (some (i.beforeTrap.getD i.memory.status))]
  | t :: _ => i.withResult (numberOf t) fun n => i.push [.exit (some n)]

/-- `return`: leave the function or the source under way. -/
def leave (i : Interpreter) (args : List Text) : Interpreter :=
  i.withResult ((args.head?.map numberOf).getD (.ok i.memory.status)) fun n =>
    { i.setStatus n with tasks := Task.leaveFrame i.tasks }

/-- `break` and `continue`: leave loops, or go on with them. -/
def leaveLoops (i : Interpreter) (goesOn : Bool) (args : List Text) : Interpreter :=
  i.withResult ((args.head?.map numberOf).getD (.ok 1)) fun n =>
    if n = 0 then i.refuse (Arithmetic.illegalNumber (args.headD []))
    else
      let i := i.setStatus 0
      let n := min n (Task.loops i.tasks)
      if n = 0 then i else { i with tasks := Task.leaveLoops goesOn n i.tasks }

/-- `eval`: run the arguments as commands. -/
def evaluate (i : Interpreter) (args : List Text) : Interpreter :=
  i.push [.lines (i.sourceOf ([' '].intercalate args)) false false]

/-- The contents of a file of commands, which is looked for along the search path if its name has no
slash. -/
def sourceFile (files : FileTree) (cwd : Place) (m : Memory) (name : Text) : Except String Bytes :=
  let dirs := if name.contains '/' then [] else Text.pieces ':' m.searchPath
  let path? := if name.contains '/' then some name
    else (dirs.map fun dir => if dir.isEmpty then name else dir ++ '/' :: name).find? fun path =>
      files.isFile cwd ⟨Text.toBytes path⟩
  match path? with
  | none => .error (String.ofList name ++ ": not found")
  | some path =>
    match files.readFile cwd ⟨Text.toBytes path⟩ with
    | .ok contents => .ok contents
    | .error .isADirectory => .ok []
    | .error e =>
      let cause := match e with
        | .notFound | .notADirectory => "No such file"
        | e => e.reason
      .error ("cannot open " ++ String.ofList path ++ ": " ++ cause)

/-- `.`: run the commands in a file. -/
def runFile (i : Interpreter) (args : List Text) : Act Interpreter := do
  i.actWith (readOptions "" "" args) fun r => do
    match r.operands with
    | [] => return i.setStatus 0
    | name :: _ =>
      let files := (← Act.machine).files
      i.actWith (sourceFile files (← Act.self).directory i.memory name) fun contents => do
        let source := { i.sourceOf (Text.ofBytes contents) with isFile := true }
        return (i.push [.lines source false false, .leaveSource]).calling (some name)

/-- `read`: read a line into variables. -/
def read (i : Interpreter) (args : List Text) : Interpreter :=
  i.withResult (readOptions "r" "p" args) fun r =>
    if r.operands.isEmpty then i.refuse "arg count"
    else i.push [.readLine (r.has 'r') r.operands {}]

/-- `printf`: print by a format. -/
def printFormat (i : Interpreter) (args : List Text) : Interpreter :=
  i.withResult (readOptions "" "" args) fun r =>
    match r.operands with
    | [] => i.refuse "usage: printf format [arg ...]"
    | format :: args =>
      let p := Printing.printf .builtin format args
      let writes := p.output.map fun
        | .text t => Task.write "printf" 1 (Text.toBytes t)
        | .complaint what => .write "" 2 (i.lineMessage what)
      i.push (.setStatus p.status :: writes ++ if p.gaveUp then [.setStatus 2, .fail] else [])

/-- `test`, also in brackets. -/
def checkCondition (i : Interpreter) (bracketed : Bool) (args : List Text) : Act Interpreter := do
  match Condition.value (← Machine.Act.fileView) bracketed args with
  | .ok b => return i.setStatus (if b then 0 else 1)
  | .error e => return i.refuse e.message

end Interpreter

end Rehearsal.Shell
