import Rehearsal.Machine.Program
import Rehearsal.Shell.Builtin.Reply

/-!
# Commands about jobs

`jobs`, `wait`, `fg` and `bg`. A job is what runs in the background; it is named by its number, or by
its place among the jobs.
-/

namespace Rehearsal.Shell

open Machine (Act ExitStatus)

namespace Job

/-- How the processes of a job have ended, as far as they have. -/
def statuses (j : Job) : Act (List (Option ExitStatus)) := j.processes.mapM Act.childStatus

/-- Is any process of a job still running? -/
def isRunning (j : Job) : Act Bool := return (← j.statuses).any (·.isNone)

/-- The status of a job is that of its last process. -/
def status (j : Job) : Act Nat := do
  match (← j.statuses).getLast?.join with
  | some s => return s.shellStatus
  | none => return 0

/-- How the end of a process is shown. -/
def endText : ExitStatus → Text
  | .code 0 => "Done".toList
  | .code n => "Done(".toList ++ Text.ofNat n ++ [')']
  | .signal n => ((Machine.Signal.report? n).getD (if n = 2 then "Interrupt" else "Broken pipe")).toList

/-- A line about a job; `place` is a mark for the newest two. -/
def line (j : Job) (place : Char) : Act Text := do
  let last := (← j.statuses).getLast?.join
  let state := if ← j.isRunning then "Running".toList else (last.map endText).getD "Done".toList
  let text := '[' :: Text.ofNat j.number ++ "] ".toList ++ place :: ' ' :: state
  let padded := text ++ List.replicate (33 - text.length) ' '
  return padded ++ (List.replicate (j.processes.length - 1) " | ".toList).flatten ++ ['\n']

end Job

namespace Interpreter

/-- The mark of a job: of the newest, of the one before it, or of an older one. -/
def jobMark (i : Interpreter) (j : Job) : Char :=
  match i.memory.jobs.findIdx? (·.number == j.number) with
  | some 0 => '+'
  | some 1 => '-'
  | _ => ' '

/-- The job that a text names, or the newest. It may have to be one that can be moved between the
foreground and the background, which none is. -/
def findJob (i : Interpreter) (name : Text) (movable : Bool) : Except String Job := do
  let jobs := i.memory.jobs
  let refuse (text : String) : Except String Job := throw text
  let noSuchJob := refuse ("No such job: " ++ String.ofList name)
  let found ← match name with
    | [] | ['%'] | ['%', '+'] | ['%', '%'] => jobs.head?.elim (refuse "No current job") pure
    | ['%', '-'] => (jobs[1]?).elim (refuse "No previous job") pure
    | '%' :: t =>
      match Text.toNat? t with
      | some n => (jobs.find? (·.number == n)).elim noSuchJob pure
      | none => noSuchJob
    | _ => noSuchJob
  if movable then
    let shown := if name.isEmpty then "(null)" else String.ofList name
    refuse ("job " ++ shown ++ " not created under job control")
  else return found

/-- Show jobs one after another. What has ended is shown once and then forgotten. -/
def showJobs (onlyNumbers : Bool) : Interpreter → List Job → Act (Interpreter × Text)
  | i, [] => return (i, [])
  | i, j :: js => do
    let line ← if onlyNumbers then pure (Text.ofNat (j.processes.headD 0) ++ ['\n'])
      else j.line (i.jobMark j)
    let i := if ← j.isRunning then i
      else
        let jobs := i.memory.jobs.filter (·.number != j.number)
        i.withMemory { i.memory with jobs }
    let (i, more) ← showJobs onlyNumbers i js
    return (i, line ++ more)

/-- `jobs`: show jobs, the newest first. -/
def listJobs (i : Interpreter) (args : List Text) : Act Interpreter := do
  i.actWith (readOptions "lp" "" args) fun r => do
    i.actWith (r.operands.mapM fun t => i.findJob t false) fun named => do
      let chosen := if r.operands.isEmpty then i.memory.jobs else named
      let (i, text) ← showJobs (r.has 'p') i chosen
      return i.print text 0

/-- `fg` and `bg`: no job can be moved. -/
def moveJobs (i : Interpreter) (args : List Text) : Interpreter :=
  i.withResult (readOptions "" "" args) fun r =>
    i.withResult (i.findJob (r.operands.headD []) true) fun _ => i.setStatus 0

/-- The job that an operand of `wait` means, if it is one of the shell's. -/
def awaited (i : Interpreter) (t : Text) : Except String (Option Job) := do
  if t.head? = some '%' then return some (← i.findJob t false)
  else
    let id ← numberOf t
    return i.memory.jobs.find? (·.processes.getLast? == some id)

/-- `wait`: wait for jobs, or for all there are. -/
def wait (i : Interpreter) (args : List Text) : Interpreter :=
  i.withResult (readOptions "" "" args) fun r =>
    if r.operands.isEmpty then (i.setStatus 0).push [.wait (i.memory.jobs.map (·.processes)) false]
    else i.withResult (r.operands.filterMapM i.awaited) fun jobs =>
      (i.setStatus 127).push [.wait (jobs.map (·.processes)) true]

end Interpreter

end Rehearsal.Shell
