import Rehearsal.Shell.Task

/-!
# How a shell starts

A shell takes switches from its command line, and where its source is: an argument, a file, or its
standard input. Its variables are those of its environment and some of its own.
-/

namespace Rehearsal.Shell

/-- Where programs are looked for if nothing else is said. -/
def standardPath : Text :=
  "/usr/local/sbin:/usr/local/bin:/usr/sbin:/usr/bin:/sbin:/bin".toList

/-- The path of a place. -/
def pathOf (place : Place) : Text :=
  if place.isEmpty then ['/'] else place.flatMap fun name => '/' :: Text.ofBytes name

/-- The variables of a shell that starts in an environment. -/
def initialVariables (environment : List (Text × Text)) (cwd : Place) :
    List (Text × Variable) :=
  let own (name value : String) : Text × Variable := (name.toList, { value := some value.toList })
  let before := [("PATH".toList, { value := some standardPath }), own "PS1" "# ", own "PS2" "> ",
    own "PS4" "+ "]
  let given := environment.filter fun e => isName e.1
  let all := given.foldl (fun vs (name, value) =>
    Memory.put vs name { value := some value, exported := true }) before
  let after := [own "IFS" " \t\n", own "OPTIND" "1", own "PPID" "1",
    ("PWD".toList, { value := some (pathOf cwd), exported := true })]
  after.foldl (fun vs (name, v) => Memory.put vs name v) all

/-- A shell that a command line starts in a directory; `contents` are those of files. -/
def start (self : Text) (args : List Text) (environment : List (Text × Text)) (id : Nat)
    (cwd : Place) (contents : Text → Except IoError Bytes) : Interpreter :=
  let memory : Memory := {
    name := self
    process := id
    bindings := initialVariables environment cwd }
  let refuse (text : String) : Interpreter :=
    let i : Interpreter := { memory, tasks := [] }
    i.push [.write "" 2 (i.message ("0: " ++ text)), .exit (some 2)]
  match SwitchReading.read true (args.length + 1) { on := [] } args with
  | .error text => refuse text
  | .ok r =>
    let fromInput := r.on.contains .readsInput || (r.operands.isEmpty && !r.fromArgument)
    let on := if fromInput then Switch.set r.on .readsInput true else r.on
    let needsTerminal := on.contains .monitors || on.contains .interactive
    let memory := { memory with switches := Switch.set on .monitors false }
    let begin (memory : Memory) (tasks : List Task) : Interpreter :=
      let i : Interpreter := { memory, tasks }
      let i := if needsTerminal then
          i.push [.write "" 2 (i.message ("0: " ++ Switch.noTerminal))]
        else i
      i.push (if r.listed.isEmpty then [] else [.write "" 1 (Text.toBytes r.listed)])
    let script : Task := .script { rest := [], isFile := true }
    if r.fromArgument then
      match r.operands with
      | [] => refuse "-c requires an argument"
      | source :: rest =>
        let memory := { memory with name := rest.headD self, arguments := rest.drop 1 }
        begin memory (.lines { rest := source } false (!fromInput) ::
          if fromInput then [script] else [])
    else if fromInput then begin { memory with arguments := r.operands } [script]
    else
      let file := r.operands.headD []
      match contents file with
      | .ok source =>
        begin { memory with name := file, arguments := r.operands.drop 1 }
          [.lines { rest := Text.ofBytes source, isFile := true } false false]
      | .error .isADirectory => begin memory []
      | .error _ => refuse ("cannot open " ++ String.ofList file ++ ": No such file")

end Rehearsal.Shell
