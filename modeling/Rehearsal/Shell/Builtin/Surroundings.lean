import Rehearsal.Machine.Program
import Rehearsal.Shell.Builtin.Reply

/-!
# Commands about what surrounds the shell

`cd`, `pwd`, `umask`, `ulimit`, `times`; and `type`, `hash` and two uses of `command`, which say what
a name leads to.
-/

namespace Rehearsal.Shell

open Machine (Act)

/-- The names of the commands that the shell carries out itself. -/
def builtinNames : List String := [
  ".", ":", "[", "alias", "bg", "break", "cd", "chdir", "command", "continue", "echo", "eval",
  "exec", "exit", "export", "false", "fg", "getopts", "hash", "jobs", "kill", "local", "printf",
  "pwd", "read", "readonly", "return", "set", "shift", "test", "times", "trap", "true", "type",
  "ulimit", "umask", "unalias", "unset", "wait"]

def isBuiltin (name : Text) : Bool := builtinNames.contains (String.ofList name)

/-- Is this a command of the shell's own that is more than a command? -/
def isSpecial (name : Text) : Bool := specialCommands.contains (String.ofList name)

/-! ### Rights of new files -/

namespace Mask

def octal (digits : Nat) (n : Nat) : Text :=
  let ds := Nat.toDigits 8 n
  List.replicate (digits - ds.length) '0' ++ ds

/-- The rights that a mask leaves to one class of users. -/
def rights (n : Nat) : Text :=
  (if n &&& 4 = 0 then ['r'] else []) ++ (if n &&& 2 = 0 then ['w'] else []) ++
    (if n &&& 1 = 0 then ['x'] else [])

/-- A mask in letters. -/
def symbolic (mask : Nat) : Text :=
  "u=".toList ++ rights (mask / 64) ++ ",g=".toList ++ rights (mask / 8) ++ ",o=".toList ++
    rights mask

/-- The bits of some letters for rights. -/
def bits? (t : Text) : Option Nat :=
  t.foldlM (fun n c => match c with
    | 'r' => some (n ||| 4)
    | 'w' => some (n ||| 2)
    | 'x' | 'X' => some (n ||| 1)
    | _ => none) 0

/-- The classes of users that letters name; none of them names all. -/
def classes (t : Text) : List Nat :=
  if t.isEmpty || t.contains 'a' then [64, 8, 1]
  else [('u', 64), ('g', 8), ('o', 1)].filterMap fun (c, n) => if t.contains c then some n else none

/-- Change what a mask lets through as one clause says. -/
def applyClause (allowed : Nat) (clause : Text) : Option Nat := do
  let who := clause.takeWhile "ugoa".toList.contains
  match clause.drop who.length with
  | op :: letters =>
    let n ← bits? letters
    let change (allowed weight : Nat) : Nat :=
      let mine := allowed / weight % 8
      let after := match op with
        | '+' => mine ||| n
        | '-' => mine - (mine &&& n)
        | _ => n
      allowed - mine * weight + after * weight
    if "+-=".toList.contains op then some ((classes who).foldl change allowed) else none
  | [] => none

/-- Read a mask in digits or in letters. -/
def read (old : Nat) (t : Text) : Except String Nat :=
  if t.head?.any Char.isDigit then
    if t.all Numeral.isOctal then .ok (Numeral.ofDigits 8 t % 512)
    else .error (Arithmetic.illegalNumber t)
  else match (Text.pieces ',' t).foldlM applyClause (511 - old) with
    | some allowed => .ok (511 - allowed)
    | none => .error ("Illegal mode: " ++ String.ofList t)

end Mask

/-! ### Limits -/

/-- The limits of a shell: the letter, what is said in a listing, and the value, if there is one. -/
def limits : List (Char × String × Option String) := [
  ('t', "time(seconds)        ", none), ('f', "file(blocks)         ", none),
  ('d', "data(kbytes)         ", none), ('s', "stack(kbytes)        ", some "8192"),
  ('c', "coredump(blocks)     ", some "0"), ('m', "memory(kbytes)       ", none),
  ('l', "locked memory(kbytes) ", some "8192"), ('p', "process              ", none),
  ('n', "nofiles              ", some "1048576"), ('v', "vmemory(kbytes)      ", none),
  ('w', "locks                ", none), ('r', "rtprio               ", some "0")]

/-- The text of a limit. -/
def limitText (value : Option String) : Text := (value.getD "unlimited").toList ++ ['\n']

namespace Interpreter

/-- `umask`: the rights that new files do not get. -/
def changeMask (i : Interpreter) (args : List Text) : Interpreter :=
  i.withResult (readOptions "S" "" args) fun r =>
    match r.operands with
    | [] =>
      let text := if r.has 'S' then Mask.symbolic i.memory.mask else Mask.octal 4 i.memory.mask
      i.print (text ++ ['\n']) 0
    | t :: _ =>
      i.withResult (Mask.read i.memory.mask t) fun mask => i.remember (.ok { i.memory with mask })

/-- `ulimit`: the limits of what the shell may use. -/
def showLimits (i : Interpreter) (args : List Text) : Interpreter :=
  i.withResult (readOptions "HSatfdscmlpnvwr" "" args) fun r =>
    if r.has 'a' then
      i.print (limits.flatMap fun (_, name, value) => name.toList ++ limitText value) 0
    else
      let letter := (r.options.getLast?.map (·.1)).getD 'f'
      let value := ((limits.find? (·.1 == letter)).map (·.2.2)).join
      match r.operands with
      | [] => i.print (limitText value) 0
      | t :: _ =>
        if t == "unlimited".toList || (!t.isEmpty && t.all Char.isDigit) then i.setStatus 0
        else i.refuse "bad number"

/-- `times`: the time that has been used, which is none. -/
def showTimes (i : Interpreter) : Interpreter :=
  i.print "0m0.000000s 0m0.000000s\n0m0.000000s 0m0.000000s\n".toList 0

/-! ### Directories -/

/-- The directories in which the target of `cd` is looked for, each with whether it is shown. -/
def directoryChoices (m : Memory) (target : Text) : List (Text × Bool) :=
  let isPlain := match target with
    | '/' :: _ | ['.'] | '.' :: '/' :: _ | ['.', '.'] | '.' :: '.' :: '/' :: _ => false
    | _ => true
  let target := if target.isEmpty then ['.'] else target
  let along := match m.valueOf? "CDPATH".toList with
    | some path => if isPlain then Text.pieces ':' path else []
    | none => []
  along.map (fun dir => if dir.isEmpty then (target, false) else (dir ++ '/' :: target, true)) ++
    [(target, false)]

/-- `cd`: change the directory. -/
def changeDirectory (i : Interpreter) (args : List Text) : Act Interpreter := do
  i.actWith (readOptions "LP" "" args) fun r => do
    let m := i.memory
    let goesBack := r.operands.head? == some ['-']
    let target := match r.operands with
      | [] => (m.valueOf? "HOME".toList).getD []
      | t :: _ => if goesBack then (m.valueOf? "OLDPWD".toList).getD [] else t
    let here := (← Act.self).directory
    let files := (← Act.machine).files
    let choice := (directoryChoices m target).findSome? fun (path, shown) =>
      match files.resolve here ⟨Text.toBytes path⟩ with
      | .ok place => if files.hasDir place then some (place, shown) else none
      | .error _ => none
    match choice with
    | none => return i.refuse ("can't cd to " ++ String.ofList target)
    | some (place, shown) =>
      Act.modifySelf ({ · with directory := place })
      let exported (v : Variable) : Variable := { v with exported := true }
      let old := (m.valueOf? "PWD".toList).getD (pathOf here)
      let changed := do
        let m ← m.assign? "OLDPWD".toList old
        let m ← (m.mark "OLDPWD".toList exported).assign? "PWD".toList (pathOf place)
        return m.mark "PWD".toList exported
      return i.withResult changed fun m =>
        let i := i.withMemory m
        if shown || goesBack then i.print (pathOf place ++ ['\n']) 0 else i.setStatus 0

/-- `pwd`: the directory. -/
def showDirectory (i : Interpreter) (args : List Text) : Act Interpreter := do
  i.actWith (readOptions "LP" "" args) fun _ => do
    return i.print (pathOf (← Act.self).directory ++ ['\n']) 0

/-! ### What names lead to -/

/-- What is said of a name: in a sentence, or by what it can be written as. The last part is the
status. -/
def describe (files : FileTree) (cwd : Place) (m : Memory) (path : Option Text) (sentence : Bool)
    (name : Text) : Text × Nat :=
  let say (more : String) : Text × Nat :=
    ((if sentence then name ++ more.toList else name) ++ ['\n'], 0)
  if keywords.contains (String.ofList name) then say " is a shell keyword"
  else match m.aliases.lookup name with
    | some value =>
      if sentence then (name ++ " is an alias for ".toList ++ value ++ ['\n'], 0)
      else ("alias ".toList ++ Memory.aliasLine (name, value), 0)
    | none =>
      if m.functions.any (·.1 == name) then say " is a shell function"
      else if isSpecial name then say " is a special shell builtin"
      else if isBuiltin name then say " is a shell builtin"
      else
        let tracked := path.isNone && m.found.any (·.1 == name)
        let way := if tracked then " is a tracked alias for " else " is "
        match Machine.findProgram files cwd (path.getD m.searchPath) name with
        | .ok (found, _) =>
          (if sentence then name ++ way.toList ++ found ++ ['\n'] else found ++ ['\n'], 0)
        | .error _ => (if sentence then name ++ ": not found\n".toList else [], 127)

/-- The shell's memory after it has been asked what a name leads to along the usual search path. -/
def afterDescribing (files : FileTree) (cwd : Place) (m : Memory) (name : Text) : Memory :=
  let isOther := keywords.contains (String.ofList name) || (m.aliases.lookup name).isSome ||
    m.functions.any (·.1 == name) || isBuiltin name || name.contains '/'
  if isOther then m
  else match Machine.findProgram files cwd m.searchPath name with
    | .ok (path, _) => { m with found := Memory.put m.found name path }
    | .error _ => m

/-- `type`: what names lead to. -/
def describeAll (i : Interpreter) (args : List Text) : Act Interpreter := do
  let files := (← Act.machine).files
  let here := (← Act.self).directory
  let (m, told) := args.foldl (fun (m, told) name =>
    (afterDescribing files here m name, told ++ [describe files here m none true name]))
    (i.memory, ([] : List (Text × Nat)))
  return (i.withMemory m).print (told.flatMap (·.1)) (if told.all (·.2 = 0) then 0 else 127)

/-- `command`, if it only says what a name leads to. -/
def describeOne (i : Interpreter) (args : List Text) : Act Interpreter := do
  i.actWith (readOptions "pvV" "" args) fun r => do
    match r.operands with
    | [] => return i.setStatus 0
    | name :: _ =>
      let files := (← Act.machine).files
      let here := (← Act.self).directory
      let path := if r.has 'p' then some standardPath else none
      let sentence := (r.options.filter (·.1 != 'p')).getLast?.any (·.1 == 'V')
      let (text, status) := describe files here i.memory path sentence name
      let m := if path.isNone then afterDescribing files here i.memory name else i.memory
      return (i.withMemory m).print text status

/-- `hash`: the paths of the programs that have been found. -/
def trackPrograms (i : Interpreter) (args : List Text) : Act Interpreter := do
  i.actWith (readOptions "rv" "" args) fun r => do
    let m := i.memory
    if r.has 'r' then return (i.withMemory { m with found := [] }).setStatus 0
    if r.operands.isEmpty then
      return i.print ((Memory.spread 31 m.found).flatMap fun (_, path) => path ++ ['\n']) 0
    let files := (← Act.machine).files
    let here := (← Act.self).directory
    let (found, missing) := r.operands.foldl (fun (found, missing) name =>
      if isBuiltin name || m.functions.any (·.1 == name) then (found, missing)
      else match Machine.findProgram files here m.searchPath name with
        | .ok (path, _) => (Memory.put found name path, missing)
        | .error _ => (found, missing ++ [name])) (m.found, [])
    let i := (i.withMemory { m with found }).setStatus (if missing.isEmpty then 0 else 1)
    return i.push (missing.map fun name =>
      .write "" 2 (i.lineMessage (String.ofList name ++ ": not found")))

end Interpreter

end Rehearsal.Shell
