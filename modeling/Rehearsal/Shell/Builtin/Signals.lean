import Rehearsal.Shell.Builtin.Jobs

/-!
# Commands about signals

`trap` and `kill`.
-/

namespace Rehearsal.Shell

open Machine (Act Signal.read? Signal.ofDigits? Signal.name Signal.names)

namespace Interpreter

/-- A listing of what is done about signals. -/
def trapListing (m : Memory) : Text :=
  let sorted := m.traps.mergeSort fun a b => a.1 ≤ b.1
  sorted.flatMap fun (n, action) =>
    "trap -- ".toList ++ Memory.quoted action ++ ' ' :: (Signal.name n).toList ++ ['\n']

/-- Say what is done about one signal; nothing else than usual, if there is no action. -/
def setTrap (i : Interpreter) (action : Option Text) (n : Nat) : Act Interpreter := do
  let others := i.memory.traps.filter (·.1 != n)
  let traps := match action with
    | some action => (n, action) :: others
    | none => others
  if n != 0 then
    let ignores := action == some []
    Act.modifySelf fun p =>
      let rest := p.ignored.filter (· != n)
      { p with ignored := if ignores then n :: rest else rest }
  return i.withMemory { i.memory with traps }

/-- Say what is done about signals, up to the first that there is not. -/
def setTraps (action : Option Text) : Interpreter → List Text → Act Interpreter
  | i, [] => return i.setStatus 0
  | i, t :: ts => do
    match Signal.read? t with
    | some n => setTraps action (← i.setTrap action n) ts
    | none => return (i.setStatus 1).warn ("trap: ".toList ++ t ++ ": bad trap\n".toList)

/-- `trap`: what is done about signals. -/
def trap (i : Interpreter) (args : List Text) : Act Interpreter := do
  i.actWith (readOptions "" "" args) fun r => do
    match r.operands with
    | [] => return i.print (trapListing i.memory) 0
    | first :: rest =>
      if rest.isEmpty || (Signal.ofDigits? first).isSome then setTraps none i r.operands
      else setTraps (if first = ['-'] then none else some first) i rest

/-- How `kill` is to be used. -/
def killUsage : String :=
  "Usage: kill [-s sigspec | -signum | -sigspec] [pid | job]... or\nkill -l [exitstatus]"

/-- What a command line of `kill` asks for. -/
inductive KillRequest where
  | list (operands : List Text)
  | send (signal : Nat) (operands : List Text)

/-- Read a command line of `kill`. -/
def readKill (args : List Text) : Except String KillRequest := do
  let named? (t : Text) : Option Nat :=
    (Signal.read? t).filter fun n => n != 0 || t.all Char.isDigit
  let request : KillRequest ← match args with
    | ('-' :: t) :: rest =>
      match named? t with
      | some n => pure (KillRequest.send n rest)
      | none =>
        let r ← readOptions "l" "s" args
        let signals ← r.options.filterMapM fun (_, t) => match t with
          | none => .ok none
          | some t => match named? t with
            | some n => .ok (some n)
            | none => .error ("invalid signal number or name: " ++ String.ofList t)
        if r.has 'l' then pure (KillRequest.list r.operands)
        else pure (KillRequest.send (signals.getLast?.getD Machine.Signal.terminate) r.operands)
    | args => pure (KillRequest.send Machine.Signal.terminate args)
  match request with
  | .send _ [] => throw killUsage
  | request => return request

/-- The names of signals: all of them, or that of one number or status. -/
def signalListing (operands : List Text) : Except String Text := do
  match operands with
  | [] => return "0\n".toList ++ (Signal.names.drop 1).flatMap fun name => name.toList ++ ['\n']
  | t :: _ =>
    let n ← numberOf t
    let n := if 128 < n then n - 128 else n
    if 0 < n && n < Signal.names.length then return (Signal.name n).toList ++ ['\n']
    else throw ("invalid signal number or exit status: " ++ String.ofList t)

/-- The shell gets a signal from itself. -/
def signalSelf (i : Interpreter) (n : Nat) : Act Interpreter := do
  let compels := Machine.Signal.isCompelling n
  if n = 0 || ((← Act.self).ignored.contains n && !compels) then return i
  match if compels then none else i.memory.trap? n with
  | some (_ :: _) => return { i with pending := i.pending ++ [n] }
  | _ =>
    if Machine.Signal.isHarmless n then return i
    else if Machine.Signal.stops n then
      Act.modifySelf ({ · with stopped := some [] })
      return i
    else return i.push [.perish n]

/-- Send a signal to what an operand names, and say whether there was anything. -/
def sendTo (i : Interpreter) (n : Nat) (operand : Text) :
    Act (Except String (Interpreter × Bool)) := do
  if operand.head? = some '%' then
    match i.findJob operand false with
    | .error text => return .error text
    | .ok _ => return .ok (i, false)
  let (isGroup, digits) := match operand with
    | '-' :: t => (true, t)
    | t => (false, t)
  match numberOf digits with
  | .error text => return .error text
  | .ok id =>
    if isGroup then return .ok (i, false)
    else if id = (← Act.self).id then return .ok (← i.signalSelf n, true)
    else
      let found ← Act.signal id n
      return .ok (i, found)

/-- Send a signal to what some operands name. -/
def sendAll (n : Nat) : Interpreter → List Text → Act Interpreter
  | i, [] => return i
  | i, t :: ts => do
    match ← i.sendTo n t with
    | .error text => return i.refuse text
    | .ok (i, found) =>
      let i ← sendAll n (if found then i else i.setStatus 1) ts
      return if found then i else i.push [.write "" 2 (i.lineMessage "No such process\n")]

/-- `kill`: send signals, or list them. -/
def kill (i : Interpreter) (args : List Text) : Act Interpreter := do
  i.actWith (readKill args) fun request => do
    match request with
    | .list operands => return i.withResult (signalListing operands) fun t => i.print t 0
    | .send n operands => sendAll n (i.setStatus 0) operands

end Interpreter

end Rehearsal.Shell
