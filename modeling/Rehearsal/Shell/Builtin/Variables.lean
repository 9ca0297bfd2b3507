import Rehearsal.Shell.Builtin.Reply

/-!
# Commands about variables, arguments and switches

`export`, `readonly`, `local`, `unset`, `set`, `shift`, `getopts`, `alias` and `unalias`.
-/

namespace Rehearsal.Shell

namespace Memory

/-- Mark a variable that is named in an argument, which may also give it a value. -/
def declare (f : Variable → Variable) (m : Memory) (t : Text) : Except String Memory := do
  match splitAssignment t with
  | (name, some value) =>
    if !isName name then throw (badName name)
    return (← m.assign? name value).mark name f
  | (name, none) =>
    if !isName name then throw (badName name)
    return m.mark name f

/-- Forget a variable. -/
def forgetVariable (m : Memory) (name : Text) : Except String Memory := do
  if !isName name then throw (badName name)
  if m.isReadOnly name then throw (readOnlyMessage name)
  return m.unset name

/-- Forget a function. -/
def forgetFunction (m : Memory) (name : Text) : Memory :=
  { m with functions := m.functions.filter (·.1 != name) }

/-- Give the shell other arguments. -/
def setArguments (m : Memory) (arguments : List Text) : Memory :=
  { m with arguments, optionIndex := 1, letterIndex := none }

/-! ### Options one at a time -/

/-- What is found where the next option is looked for. -/
inductive NextOption where
  /-- There are no more options. -/
  | none
  /-- A letter, what is left of its word, and the words after it. -/
  | letter (c : Char) (rest : Text) (after : List Text)

/-- Look for the next option in some words. The words that are passed come with it. -/
def nextOption (m : Memory) (words : List Text) : Nat × NextOption :=
  let index := m.optionIndex
  let rest : Text := match m.letterIndex with
    | some n => if index ≤ 1 then [] else ((words[index - 2]?).getD []).drop n
    | none => []
  match rest with
  | c :: rest => (index, .letter c rest (words.drop (index - 1)))
  | [] =>
    match words.drop (index - 1) with
    | ['-', '-'] :: _ => (index + 1, .none)
    | ('-' :: c :: rest) :: after => (index + 1, .letter c rest after)
    | _ => (index, .none)

/-- Is a letter among the options, and does it take an argument? -/
def optionKind (options : Text) (c : Char) : Option Bool :=
  match options with
  | [] => none
  | d :: rest =>
    if c == d && c != ':' then some (rest.head? == some ':') else optionKind rest c

/-- What reading one option comes to. -/
structure OptionFound where
  memory : Memory
  /-- What is written to the standard error. -/
  complaint : Text := []
  isOver : Bool := false

/-- Read the next option of some words into a variable. -/
def getOption (m : Memory) (options name : Text) (words : List Text) :
    Except String OptionFound := do
  let quiet := options.head? == some ':'
  let setArgument (m : Memory) (t : Option Text) : Except String Memory :=
    match t with
    | some t => m.assign? "OPTARG".toList t
    | none => m.forgetVariable "OPTARG".toList
  let finish (m : Memory) (index : Nat) (letters : Option Nat) (c : Char) : Except String Memory := do
    let m ← m.assign? "OPTIND".toList (.ofNat index)
    if !isName name then throw (badName name)
    let m ← m.assign? name [c]
    return { m with optionIndex := index, letterIndex := letters }
  match m.nextOption words with
  | (index, .none) => return { memory := ← finish m index none '?', isOver := true }
  | (index, .letter c rest after) =>
    let place : Option Nat := some (((words[index - 2]?).getD []).length - rest.length)
    let refuse (text : String) : Except String OptionFound := do
      let complaint := if quiet then [] else text.toList ++ ['\n']
      let m ← setArgument m (if quiet then some [c] else none)
      return { memory := ← finish m index place '?', complaint }
    match optionKind options c with
    | none => refuse (illegalOption c)
    | some false =>
      let m ← setArgument m (some [])
      return { memory := ← finish m index place c }
    | some true =>
      if !rest.isEmpty then
        let m ← setArgument m (some rest)
        return { memory := ← finish m index none c }
      match after with
      | argument :: _ =>
        let m ← setArgument m (some argument)
        return { memory := ← finish m (index + 1) none c }
      | [] =>
        if quiet then
          let m ← setArgument m (some [c])
          return { memory := ← finish m index place ':' }
        else
          let m ← setArgument m none
          let complaint := "No arg for -".toList ++ c :: " option\n".toList
          return { memory := ← finish m index place '?', complaint }

end Memory

namespace Interpreter

/-- `export` and `readonly`: mark variables, or list those that are marked. -/
def declareVariables (i : Interpreter) (name : String) (args : List Text) : Interpreter :=
  let isExport := name = "export"
  i.withResult (readOptions "p" "" args) fun r =>
    if r.has 'p' || r.operands.isEmpty then
      let wanted (v : Variable) : Bool := if isExport then v.exported else v.readOnly
      i.print (i.memory.listing (name.toList ++ [' ']) wanted) 0
    else
      let mark (v : Variable) : Variable :=
        if isExport then { v with exported := true } else { v with readOnly := true }
      i.remember (r.operands.foldlM (Memory.declare mark) i.memory)

/-- `local`: variables that are put back when the function under way is over. -/
def declareLocals (i : Interpreter) (args : List Text) : Interpreter :=
  if !i.tasks.any Task.isFunction then i.refuse "not in a function"
  else
    let declared := args.foldlM (fun (i : Interpreter) t => do
      if t = ['-'] then return { i with tasks := Task.addSwitches i.memory.switches i.tasks }
      else
        let name := (splitAssignment t).1
        if !isName name then throw (badName name)
        let tasks := Task.addLocal name (i.memory.bindings.lookup name) i.tasks
        return { i with tasks, memory := ← i.memory.declare id t }) i
    i.withResult declared fun i => i.setStatus 0

/-- `unset`: forget variables or functions. -/
def forget (i : Interpreter) (args : List Text) : Interpreter :=
  i.withResult (readOptions "fv" "" args) fun r =>
    if r.options.getLast?.any (·.1 == 'f') then
      i.remember (.ok (r.operands.foldl Memory.forgetFunction i.memory))
    else i.remember (r.operands.foldlM Memory.forgetVariable i.memory)

/-- `set`: change switches and arguments, or list the variables. -/
def setSwitches (i : Interpreter) (args : List Text) : Interpreter :=
  if args.isEmpty then i.print (i.memory.listing [] (·.value.isSome)) 0
  else
    let reading := SwitchReading.read false (args.length + 1) { on := i.memory.switches } args
    i.withResult reading fun r =>
      let asksTerminal := r.on.contains .monitors
      let m := { i.memory with switches := Switch.set r.on .monitors false }
      let m := if r.operands.isEmpty && !r.endedByDashes then m else m.setArguments r.operands
      let i := (i.withMemory m).print r.listed 0
      if asksTerminal then i.push [.write "" 2 (i.lineMessage Switch.noTerminal)] else i

/-- `shift`: drop arguments at the front. -/
def shift (i : Interpreter) (args : List Text) : Interpreter :=
  i.withResult ((args.head?.map numberOf).getD (.ok 1)) fun n =>
    if i.memory.arguments.length < n then i.refuse "can't shift that many"
    else i.remember (.ok (i.memory.setArguments (i.memory.arguments.drop n)))

/-- `getopts`: read the next option into a variable. -/
def readOption (i : Interpreter) (args : List Text) : Interpreter :=
  match args with
  | options :: name :: words =>
    let words := if words.isEmpty then i.memory.arguments else words
    let m := if words.length + 1 < i.memory.optionIndex then
        { i.memory with optionIndex := 1, letterIndex := none }
      else i.memory
    i.withResult (m.getOption options name words) fun found =>
      (((i.withMemory found.memory).setStatus (if found.isOver then 1 else 0))).warn found.complaint
  | _ => i.refuse "Usage: getopts optstring var [arg...]"

/-- `alias`: give names to the beginnings of commands, or list them. -/
def nameAliases (i : Interpreter) (args : List Text) : Interpreter :=
  if args.isEmpty then
    i.print ((Memory.spread 39 i.memory.aliases).flatMap Memory.aliasLine) 0
  else
    let (m, listed, missing) := args.foldl (fun (m, listed, missing) t =>
      let name := t.take 1 ++ (t.drop 1).takeWhile (· != '=')
      match t.drop name.length with
      | _ :: value =>
        ({ m with aliases := Memory.put m.aliases name value }, listed, missing)
      | [] =>
        match m.aliases.lookup name with
        | some value => (m, listed ++ Memory.aliasLine (name, value), missing)
        | none => (m, listed, missing ++ "alias: ".toList ++ name ++ " not found\n".toList))
      (i.memory, ([] : Text), ([] : Text))
    ((i.withMemory m).print listed (if missing.isEmpty then 0 else 1)).warn missing

/-- `unalias`: forget aliases. -/
def forgetAliases (i : Interpreter) (args : List Text) : Interpreter :=
  i.withResult (readOptions "a" "" args) fun r =>
    if r.has 'a' then (i.withMemory { i.memory with aliases := [] }).setStatus 0
    else
      let (aliases, missing) := r.operands.foldl (fun (aliases, missing) name =>
        if aliases.any (·.1 == name) then (aliases.filter (·.1 != name), missing)
        else (aliases, missing ++ "unalias: ".toList ++ name ++ " not found\n".toList))
        (i.memory.aliases, ([] : Text))
      let i := (i.withMemory { i.memory with aliases }).setStatus (if missing.isEmpty then 0 else 1)
      i.warn missing

end Interpreter

end Rehearsal.Shell
