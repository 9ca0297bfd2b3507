import Rehearsal.Shell.Builtin
import Rehearsal.Shell.Lookup
import Rehearsal.Shell.Redirection

/-!
# A step of the shell

One task is taken off the stack and carried out. A task that has to wait is put back. Most tasks
put others on the stack, so a command is run by running its parts, and every state in between is
the state of a shell.

A simple command is run in stages: its words are expanded, then the targets of its redirections;
the redirections are made; then its variables are assigned one by one, so that each can see those
before it; then it is traced, and only then is it looked for.
-/

namespace Rehearsal.Shell

open Machine (Act Program Turn ExitStatus Signal.report?)

namespace Interpreter

/-- What a step of a shell leaves. -/
abbrev Step := Act (Program × Turn)

/-- Go on. -/
def goOn (i : Interpreter) : Step := return (.shell i, .goesOn)

/-- Put a task back and wait. -/
def waitWith (i : Interpreter) (t : Task) : Step := return (.shell (i.push [t]), .waits)

/-! ### Copies of the shell -/

/-- A shell that does some of the things of this one in a process of its own. It ignores what this
one ignores, and forgets what else is done about signals. -/
def copyWith (i : Interpreter) (tasks : List Task) : Interpreter :=
  let m := i.memory
  let frame := if i.tasks.any Task.isFunction then
      [Task.leaveFunction m.arguments (m.optionIndex, m.letterIndex) [] none]
    else []
  { i with
    memory := { m with traps := m.traps.filter (·.2.isEmpty), jobs := [] }
    tasks := tasks ++ .outside (Task.loops i.tasks) :: frame ++ [.exit none]
    pending := []
    beforeTrap := none }

/-- Run a command in a process of its own, with these descriptors. -/
def spawnCopy (i : Interpreter) (descriptors : List (Nat × Nat)) (c : Command) : Act Nat :=
  Act.spawn descriptors fun _ => .shell (i.copyWith [.run c true])

/-- Descriptors with one of them changed. -/
def withDescriptor (descriptors : List (Nat × Nat)) (d h : Nat) : List (Nat × Nat) :=
  (d, h) :: descriptors.filter (·.1 != d)

/-- Start the commands of a pipeline, each with the pipe from the one before as its input. -/
def spawnPipeline (i : Interpreter) (descriptors : List (Nat × Nat)) :
    List Command → Act (List Nat)
  | [] => return []
  | [c] => return [← i.spawnCopy descriptors c]
  | c :: cs => do
    let (reading, writing) ← Act.newPipe
    let outer := match (← Act.self).handle? 1 with
      | some h => withDescriptor descriptors 1 h
      | none => descriptors.filter (·.1 != 1)
    let child ← i.spawnCopy (withDescriptor descriptors 1 writing) c
    return child :: (← i.spawnPipeline (withDescriptor outer 0 reading) cs)

/-- The signals that do nothing to what runs in the background. -/
def backgroundIgnored : List Nat := [2, 3]

/-- Run a command in the background. -/
def spawnBackground (i : Interpreter) (c : Command) : Step := do
  let nothing ← Act.newHandle { resource := .device .null }
  let descriptors := withDescriptor (← Act.self).descriptors 0 nothing
  let copied := { i with tested := false }
  let children ← match c with
    | .pipeline false cs => copied.spawnPipeline descriptors cs
    | c => do
      let child ← copied.spawnCopy descriptors c
      pure [child]
  children.forM fun id => Act.modifyProcess id fun p =>
    { p with ignored := backgroundIgnored ++ p.ignored }
  let (number, m) := i.memory.claimJob
  let job : Job := { number, processes := children }
  let m := { m with background := children.getLast?, jobs := job :: m.jobs, status := 0 }
  goOn (i.withMemory m)

/-! ### Expanding words -/

/-- Expand a word after others. -/
def expandWord (files : FileTree) (cwd : Place) (m : Memory) (done : List Text) (use : WordUse)
    (w : Word) : Expand (List Text) :=
  match use with
  | .fields => Expand.fields files cwd w
  | .argument =>
    if (m.lookUp done).declares then Expand.declaration files cwd w else Expand.fields files cwd w
  | .value => return [← Expand.value w]
  | .text => return [← Expand.text w]

/-- Run a command for its output, which the task that comes next needs. -/
def substitute (i : Interpreter) (c : Command) (m : Memory) (next : Task) : Step := do
  let (reading, writing) ← Act.newPipe
  let descriptors := withDescriptor (← Act.self).descriptors 1 writing
  let child ← Interpreter.spawnCopy { i with memory := m, tested := false } descriptors c
  goOn ((i.withMemory i.memory.claimJob.2).push [.collect reading child [], next])

/-- Expand words, as far as this needs nothing that is not there. -/
def expandOn (i : Interpreter) (files : FileTree) (cwd : Place) (purpose : Purpose) :
    List (WordUse × Word) → List Text → List Text → Step
  | [], done, _ => goOn (i.push [.expand [] done [] purpose])
  | (use, w) :: todo, done, outputs =>
    match (expandWord files cwd i.memory done use w).run { memory := i.memory, outputs } with
    | .ok (ts, e) =>
      expandOn (i.withMemory e.memory) files cwd purpose todo (done ++ ts) []
    | .error (.failed text) => goOn (i.giveUp text)
    | .error (.needs c m) => i.substitute c m (.expand ((use, w) :: todo) done outputs purpose)

/-- Begin to expand words. -/
def expand (i : Interpreter) (todo : List (WordUse × Word)) (purpose : Purpose) : Step := do
  i.expandOn (← Act.machine).files (← Act.self).directory purpose todo [] []

/-- The targets of redirections, to be expanded. -/
def targetWords (rs : List Redirect) : List (WordUse × Word) := rs.map fun r => (.text, r.target)

/-- Look for the first arm with a pattern that fits. -/
def choose (i : Interpreter) (subject : Text) (isLast : Bool) (outputs : List Text) :
    List (List Word × Command) → Step
  | [] => goOn (i.setStatus 0)
  | ([], _) :: arms => goOn (i.push [.choose subject arms [] isLast])
  | (p :: ps, body) :: arms =>
    match (Expand.pattern p).run { memory := i.memory, outputs } with
    | .error (.failed text) => goOn (i.giveUp text)
    | .error (.needs c m) =>
      i.substitute c m (.choose subject ((p :: ps, body) :: arms) outputs isLast)
    | .ok (pattern, e) =>
      let i := i.withMemory e.memory
      if !pattern.fits subject then
        goOn (i.push [.choose subject ((ps, body) :: arms) [] isLast])
      else match body with
        | .sequence [] => goOn (i.setStatus 0)
        | body => goOn (i.push [.run body isLast])

/-! ### Commands -/

/-- The commands of a list, of which the last may be the last of all. -/
def runAll (isLast : Bool) : List Command → List Task
  | [] => []
  | [c] => [.run c isLast]
  | c :: cs => .run c false :: runAll isLast cs

/-- Begin a test, whose failure is expected. -/
def beginTest (i : Interpreter) (test : Command) (after : List Task) : Interpreter :=
  { i with tested := true, tasks := .run test false :: .endTest i.tested :: after ++ i.tasks }

/-- The shell at a line. -/
def atLine (i : Interpreter) (line : Nat) : Interpreter :=
  { i with memory := { i.memory with line } }

/-- Begin to run a command. -/
def begin (i : Interpreter) (c : Command) (isLast : Bool) : Step := do
  match c with
  | .simple s =>
    let i := { i with memory := { i.memory with line := s.line, outputStatus := 0 } }
    (i.push [.checkFailure]).expand (s.words.map (.argument, ·)) (.arguments s isLast)
  | .sequence cs => goOn (i.push (runAll isLast cs))
  | .conditional first rest => goOn (i.beginTest first [.conditional rest isLast])
  | .pipeline negated cs =>
    match cs with
    | [c] => goOn (i.beginTest c (if negated then [.negate] else []))
    | cs =>
      let copied := { i with tested := i.tested || negated }
      let children ← copied.spawnPipeline (← Act.self).descriptors cs
      let i := i.withMemory i.memory.claimJob.2
      goOn (i.push [.await children, if negated then .negate else .checkFailure])
  | .background c => i.spawnBackground c
  | .subshell line c =>
    let i := i.atLine line
    if isLast && !i.memory.hasTraps then goOn (i.push [.run c true, .exit none])
    else
      let child ← i.spawnCopy (← Act.self).descriptors c
      goOn ((i.withMemory i.memory.claimJob.2).push [.await [child], .checkFailure])
  | .branch test body otherwise => goOn (i.beginTest test [.branch body otherwise isLast])
  | .loop whileFails test body => goOn (i.push [.loopTest whileFails test body 0])
  | .forEach line name words body =>
    let i := i.atLine line
    match words with
    | none => goOn (i.push [.expand [] i.memory.arguments [] (.loop line name body)])
    | some ws => i.expand (ws.map (.fields, ·)) (.loop line name body)
  | .select line w arms => (i.atLine line).expand [(.text, w)] (.subject arms isLast)
  | .define name body =>
    let functions := Memory.put i.memory.functions name body
    goOn { i with memory := { i.memory with functions, status := 0 } }
  | .redirected line c rs =>
    let isLast := isLast && match c with
      | .subshell .. => true
      | _ => false
    (i.atLine line).expand (targetWords rs) (.redirects c rs isLast)

/-- Make redirections. What puts them back is left on the stack, unless they are for good; what goes
wrong is a message, which is written where the redirections so far lead. -/
def redirectFor (i : Interpreter) (rs : List Redirection) (forGood fatal : Bool)
    (next : Interpreter → Step) : Step := do
  let saved ← savedDescriptors rs
  let done ← redirectAll (i.memory.isOn .spareFiles) rs
  let restored := i.push [.restore saved i.memory.caller]
  match done with
  | .ok () => next (if forGood then i else restored)
  | .error text => goOn (if fatal then restored.giveUp text else restored.complain text 2)

/-! ### Simple commands -/

/-- What is said of a program that cannot be started, and the status. -/
def startFailure (name : Text) (e : IoError) : String × Nat :=
  let name := String.ofList name
  match e with
  | .notFound | .notADirectory => (name ++ ": not found", 127)
  | .nameTooLong => (name ++ ": " ++ e.reason, 127)
  | e => (name ++ ": " ++ e.reason, 126)

/-- The program that a command line starts. -/
def programOf (i : Interpreter) (path : Option Text) (command : List Text) :
    Act (Except IoError (Nat → Program)) := do
  return Machine.startProgram (← Act.machine).files (← Act.self).directory true
    (path.getD i.memory.searchPath) command i.memory.exports

/-- Replace the shell by a program. -/
def replaceBy (i : Interpreter) (command : List Text) : Step := do
  match ← i.programOf none command with
  | .ok program => return (program (← Act.self).id, .goesOn)
  | .error e =>
    let (text, status) := startFailure (command.headD []) e
    let i := i.calling (some "exec".toList)
    goOn (i.push [.write "" 2 (i.lineMessage text), .exit (some status)])

/-- Remember the path of a program that was found along the search path. -/
def remembering (i : Interpreter) (v : Invocation) (l : Lookup) : Act Interpreter := do
  let name := l.words.headD []
  let isUsual := l.path.isNone && v.assigned.all (·.1 != "PATH".toList)
  if name.contains '/' || !isUsual then return i
  match Machine.findProgram (← Act.machine).files (← Act.self).directory i.memory.searchPath name with
  | .ok (path, _) =>
    return i.withMemory { i.memory with found := Memory.put i.memory.found name path }
  | .error _ => return i

/-- Start a program and wait for it; or become it, if the shell ends with it. -/
def startProgram (i : Interpreter) (v : Invocation) (l : Lookup) : Step := do
  match ← i.programOf l.path l.words with
  | .ok program =>
    if v.isLast && !i.memory.hasTraps then return (program (← Act.self).id, .goesOn)
    else
      let child ← Act.spawn (← Act.self).descriptors program
      let i ← i.remembering v l
      goOn ((i.withMemory i.memory.claimJob.2).push [.await [child]])
  | .error e =>
    let (text, status) := startFailure (l.words.headD []) e
    goOn (i.complain text status)

/-- Run a simple command whose redirections and assignments have been made. -/
def invoke (i : Interpreter) (v : Invocation) : Step := do
  let l := i.memory.lookUp v.arguments
  let args := l.words.drop 1
  match l.leads with
  | .nowhere => goOn (i.setStatus i.memory.outputStatus)
  | .function body =>
    let m := i.memory
    let i := i.push [.run body false,
      .leaveFunction m.arguments (m.optionIndex, m.letterIndex) [] none]
    goOn (i.withMemory (m.setArguments args))
  | .builtin name =>
    let caller := i.memory.caller
    if l.isExec then
      if args.isEmpty then goOn (i.setStatus 0) else i.replaceBy args
    else
      let i := i.push ((if l.isSpecial then [] else [.shield]) ++ [.restore [] caller])
      let i ← (i.calling (some name)).builtin (String.ofList name) args
      goOn i
  | .program => i.startProgram v l

/-- What stands before a trace. -/
def tracePrefix (m : Memory) : Text :=
  let source := (m.valueOf? "PS4".toList).getD []
  let read := (Parse.parts (16 * source.length + 64) .document).run { rest := source }
  match read with
  | .ok (w, _) =>
    match (Expand.text w).run { memory := m } with
    | .ok (t, _) => t
    | .error _ => source
  | .error _ => source

/-- Trace a simple command, if it is traced, and run it. -/
def traceAndInvoke (i : Interpreter) (v : Invocation) : Step := do
  match v.traces with
  | none => i.invoke v
  | some handle =>
    let shown := v.assigned.map (fun (name, value) => name ++ '=' :: value) ++ v.arguments
    let line := tracePrefix i.memory ++ [' '].intercalate shown ++ ['\n']
    goOn (i.push [.trace handle (Text.toBytes line), .invoke v])

/-- Assign the variables of a simple command, of which the next one is expanded first. -/
def assignNext (i : Interpreter) (v : Invocation) : List (Text × Word) → Step
  | [] => i.traceAndInvoke v
  | (name, w) :: rest => i.expand [(.value, w)] (.assignment name rest v)

/-- Assign a variable. It is put back after the command, unless this is none or more than one. -/
def assignFor (i : Interpreter) (v : Invocation) (name value : Text) : Except String Interpreter := do
  let m := i.memory
  let l := m.lookUp v.arguments
  let assigned ← m.assign? name value
  let exported := assigned.mark name fun v => { v with exported := true }
  match l.leads with
  | .nowhere => return i.withMemory assigned
  | _ =>
    if l.isExec && 1 < l.words.length then return i.withMemory exported
    else if l.isSpecial then return i.withMemory assigned
    else return (i.withMemory exported).push [.restoreVariables [(name, m.bindings.lookup name)]]

/-- Go on with what words were expanded for. -/
def expanded (i : Interpreter) (purpose : Purpose) (done : List Text) : Step := do
  let isTraced := i.memory.isOn .traces
  let traces := (← Act.self).handle? 2 |>.filter fun _ => isTraced
  match purpose with
  | .arguments s isLast =>
    if s.redirects.isEmpty then
      i.assignNext { arguments := done, isLast, traces } s.assignments
    else i.expand (targetWords s.redirects) (.targets s isLast done)
  | .targets s isLast arguments =>
    let rs := Redirection.ofTargets s.redirects done
    if rs.any (·.isMalformed) then goOn (i.giveUp Redirection.malformedMessage)
    else
      let l := i.memory.lookUp arguments
      i.redirectFor rs l.isExec l.isSpecial fun i =>
        i.assignNext { arguments, isLast, traces } s.assignments
  | .assignment name rest v =>
    let value := done.headD []
    match i.assignFor v name value with
    | .ok i => i.assignNext { v with assigned := v.assigned ++ [(name, value)] } rest
    | .error text => goOn (i.giveUp text)
  | .loop _ name body =>
    goOn (if done.isEmpty then i.setStatus 0 else i.push [.forEach name done body])
  | .subject arms isLast => goOn (i.push [.choose (done.headD []) arms [] isLast])
  | .redirects c rs isLast =>
    let rs := Redirection.ofTargets rs done
    if rs.any (·.isMalformed) then goOn (i.giveUp Redirection.malformedMessage)
    else i.redirectFor rs false false fun i => goOn (i.push [.run c isLast])

/-! ### Waiting -/

/-- The shell has seen the ends of its children. -/
def noteEnds : Act Unit := do
  let p ← Act.self
  Act.modifyMachine fun m => { m with processes := m.processes.map fun q =>
    if q.parent == p.id && q.ended.isSome then { q with seen := true } else q }

/-- What is said of children that signals ended and that have not been seen since. -/
def reportEnds (children : List Nat) : Act Text := do
  let m ← Act.machine
  let reports := children.filterMap fun id =>
    match m.processes.find? (·.id == id) with
    | some { ended := some (.signal n), seen := false, .. } => Signal.report? n
    | _ => none
  return (reports.map fun r => r.toList ++ ['\n']).flatten

/-- Wait for children, and say how those ended that a signal ended. -/
def awaitChildren (i : Interpreter) (children : List Nat) : Step := do
  let statuses ← children.mapM Act.childStatus
  if statuses.any (·.isNone) then i.waitWith (.await children)
  else
    let text ← reportEnds children
    noteEnds
    Act.modifyMachine fun m =>
      { m with processes := m.processes.filter fun p => !children.contains p.id }
    let status := (statuses.getLast?.join.map ExitStatus.shellStatus).getD 0
    goOn ((i.setStatus status).warn text)

/-- Wait for jobs; a signal for which there is something to be done ends the wait. -/
def awaitJobs (i : Interpreter) (tellsStatus : Bool) : List (List Nat) → Step
  | [] => goOn i
  | job :: jobs => do
    let statuses ← job.mapM Act.childStatus
    if statuses.any (·.isNone) then
      match i.pending.getLast? with
      | some n => goOn (i.setStatus (128 + n))
      | none => i.waitWith (.wait (job :: jobs) tellsStatus)
    else
      let text ← if tellsStatus then reportEnds job else pure []
      noteEnds
      let waited := i.memory.jobs.map fun (j : Job) =>
        if j.processes == job then { j with waited := true } else j
      let i := i.withMemory { i.memory with jobs := waited }
      let status := (statuses.getLast?.join.map ExitStatus.shellStatus).getD 0
      let i := if tellsStatus then i.setStatus status else i
      goOn ((i.push [.wait jobs tellsStatus]).warn text)

/-- The output of a command as it stands in a word: without newlines at its end. -/
def substitution (taken : List Bytes) : Text :=
  let all := taken.reverse.flatten.filter (· != 0)
  ((Text.ofBytes all).reverse.dropWhile (· == '\n')).reverse

/-- Give the task that waits for the output of a command what it waits for. -/
def supply (output : Text) : List Task → List Task
  | .expand todo done outputs purpose :: ts => .expand todo done (outputs ++ [output]) purpose :: ts
  | .choose subject arms outputs isLast :: ts =>
    .choose subject arms (outputs ++ [output]) isLast :: ts
  | ts => ts

/-- Read on in the output of a child. -/
def collectFrom (i : Interpreter) (handle child : Nat) (taken : List Bytes) : Step := do
  match ← Act.readHandle handle with
  | .data data => goOn (i.push [.collect handle child (data :: taken)])
  | .wouldWait => i.waitWith (.collect handle child taken)
  | _ =>
    match ← Act.childStatus child with
    | none => i.waitWith (.collect handle child taken)
    | some status =>
      let text ← reportEnds [child]
      noteEnds
      Act.modifyMachine fun m => { m with processes := m.processes.filter (·.id != child) }
      Act.announce
      let memory := { i.memory with outputStatus := status.shellStatus }
      goOn (Interpreter.warn { i with memory, tasks := supply (substitution taken) i.tasks } text)

/-! ### Reading and writing -/

/-- Write for a command. -/
def writeOut (i : Interpreter) (command : String) (descriptor : Nat) (data : Bytes) : Step := do
  if data.isEmpty then goOn i
  else match ← Act.write descriptor data with
    | .wrote n =>
      goOn (if n < data.length then i.push [.write command descriptor (data.drop n)] else i)
    | .wouldWait => i.waitWith (.write command descriptor data)
    | .broken => return (.shell i, .ends (.signal Machine.Signal.brokenPipe))
    | .badDescriptor | .noSpace =>
      if descriptor = 2 then goOn i else goOn (i.complain (command ++ ": I/O error") 1)

/-- Write a trace. -/
def writeTrace (i : Interpreter) (handle : Nat) (data : Bytes) : Step := do
  match ← Act.writeHandle handle data with
  | .wrote n => goOn (if n < data.length then i.push [.trace handle (data.drop n)] else i)
  | .wouldWait => i.waitWith (.trace handle data)
  | .broken => return (.shell i, .ends (.signal Machine.Signal.brokenPipe))
  | .badDescriptor | .noSpace => goOn i

/-- Give variables the values of a line. -/
def assignLine (i : Interpreter) (names : List Text) (line : InputLine) (status : Nat) :
    Interpreter :=
  let values := line.values i.memory.separators names.length
  let assign (m : Memory) (v : Text × Text) : Except String Memory :=
    if isName v.1 then m.assign? v.1 v.2 else .error (badName v.1)
  let (m, fault) := (names.zip values).foldl (fun (m, fault) v =>
    match fault with
    | some text => (m, some text)
    | none => match assign m v with
      | .ok m => (m, none)
      | .error text => (m, some text)) (i.memory, (none : Option String))
  match fault with
  | some text => (i.withMemory m).refuse text
  | none => (i.withMemory m).setStatus status

/-- Read on in a line for variables. -/
def readOn (i : Interpreter) (raw : Bool) (names : List Text) (taken : InputLine) : Step := do
  match ← Act.readLine 0 with
  | .data data =>
    let taken := taken.takeAll raw (Text.ofBytes data)
    goOn (if taken.isOver then i.assignLine names taken 0 else i.push [.readLine raw names taken])
  | .wouldWait =>
    if i.pending.isEmpty then i.waitWith (.readLine raw names taken)
    else goOn (i.assignLine names taken 1)
  | _ => goOn (i.assignLine names taken 1)

/-! ### Sources -/

/-- The lines of a source that have been read, if they are to be shown. -/
def echoed (i : Interpreter) (s : Source) (next : Nat) : Text :=
  if !i.memory.isOn .echoesSource || !s.isFile then []
  else ((Bytes.lines (Text.toBytes s.rest)).take (next - s.line)).flatMap Text.ofBytes

/-- Complain of a source, and leave everything. -/
def refuseSource (i : Interpreter) (e : SyntaxError) : Interpreter :=
  i.push [.write "" 2 (i.messageAt e.line e.text), .setStatus 2, .fail]

/-- Run the next line of a source. -/
def runSource (i : Interpreter) (s : Source) (ran endsShell : Bool) : Step := do
  let s := { s with aliases := i.memory.aliases }
  match nextLine s with
  | .error e => goOn ((i.refuseSource e).warn (i.echoed s (e.line + 1)))
  | .ok (none, _) => goOn (if ran then i else i.setStatus 0)
  | .ok (some (c, atEnd), next) =>
    let i := match c with
      | .sequence [] => i.push [.lines next ran endsShell]
      | c => i.push [.run c (endsShell && atEnd), .lines next true endsShell]
    goOn (i.warn (i.echoed s (if atEnd then next.line + 1 else next.line)))

/-- How much of a script is read at a time. -/
def scriptChunk : Nat := 8192

/-- Run the next line of a script that comes in through the standard input. More of it is read if
the line may go on; then the line is read again from its beginning. -/
def runScript (i : Interpreter) (s : Source) : Step := do
  let s := { s with aliases := i.memory.aliases }
  let readMore : Step := do
    match ← Act.readUpTo 0 scriptChunk with
    | .wouldWait => i.waitWith (.script s)
    | .data data => goOn (i.push [.script { s with rest := s.rest ++ Text.ofBytes data }])
    | _ => goOn (i.push [.lines s true false])
  match nextLine s with
  | .error e => if e.atEnd then readMore else goOn (i.push [.lines s true false])
  | .ok (none, _) => readMore
  | .ok (some (c, _), next) =>
    if next.sawEnd then readMore
    else
      let i := match c with
        | .sequence [] => i.push [.script next]
        | c => i.push [.run c false, .script next]
      goOn (i.warn (i.echoed s next.line))

/-! ### The end, signals and what is put back -/

/-- Leave everything but what puts things back. -/
def leaveAll (i : Interpreter) (after : List Task) : Interpreter :=
  { i with tasks := (Task.leaveUpToShield (i.tasks.filter fun
      | .shield => false
      | _ => true)).1 ++ after }

/-- End the shell, after what is done at its end. -/
def finish (i : Interpreter) (status : Nat) : Step := do
  match i.memory.trap? 0 with
  | some (c :: cs) =>
    let traps := i.memory.traps.filter (·.1 != 0)
    let i := { i with
      memory := { i.memory with traps, status, caller := none }
      tested := false
      pending := []
      beforeTrap := some status }
    goOn (i.leaveAll [.lines (i.sourceOf (c :: cs)) true false, .exit (some status)])
  | _ => return (.shell i, .ends (.code (status % 256)))

/-- A mistake: leave everything up to a shield, or end the shell. -/
def failOut (i : Interpreter) : Interpreter :=
  match Task.leaveUpToShield i.tasks with
  | (tasks, true) => { i with tasks }
  | (_, false) => i.leaveAll [.exit (some i.memory.status)]

/-- Do what is to be done about a signal that has come. -/
def answer (i : Interpreter) (n : Nat) : Interpreter :=
  match i.memory.trap? n with
  | some (c :: cs) =>
    let m := i.memory
    let i := i.push [.lines (i.sourceOf (c :: cs)) true false, .endTrap m.status i.beforeTrap,
      .endTest i.tested, .restore [] m.caller]
    Interpreter.calling { i with tested := false, beforeTrap := some m.status } none
  | _ => i

/-- Is something done about signals before this task? -/
def answersBefore : Task → Bool
  | .run .. | .checkFailure | .conditional .. | .branch .. | .loopTest .. | .loopBody ..
  | .setLast .. | .forEach .. | .negate => true
  | _ => false

/-- Put variables back. -/
def putBack (m : Memory) (old : List (Text × Option Variable)) : Memory :=
  old.foldl (fun m (name, v) =>
    let m := if name == "PATH".toList then { m with found := [] } else m
    match v with
    | some v => { m with bindings := Memory.put m.bindings name v }
    | none => m.unset name) m

/-- Carry out a task that has been taken off the stack. -/
def carryOut (i : Interpreter) (t : Task) : Step := do
  let status := i.memory.status
  match t with
  | .lines s ran endsShell => i.runSource s ran endsShell
  | .script s => i.runScript s
  | .run c isLast => if i.memory.isOn .onlyReads then goOn i else i.begin c isLast
  | .expand [] done _ purpose => i.expanded purpose done
  | .expand todo done outputs purpose =>
    i.expandOn (← Act.machine).files (← Act.self).directory purpose todo done outputs
  | .choose subject arms outputs isLast => i.choose subject isLast outputs arms
  | .collect handle child taken => i.collectFrom handle child taken
  | .invoke v => i.invoke v
  | .negate => goOn (i.setStatus (if status = 0 then 1 else 0))
  | .conditional rest isLast =>
    match rest with
    | [] => goOn i
    | (wantsSuccess, c) :: rest =>
      if (status = 0) = wantsSuccess then
        if rest.isEmpty then goOn (i.push [.run c isLast])
        else goOn (i.beginTest c [.conditional rest isLast])
      else goOn (i.push [.conditional rest isLast])
  | .branch body otherwise isLast =>
    if status = 0 then goOn (i.push [.run body isLast])
    else match otherwise with
      | .sequence [] => goOn (i.setStatus 0)
      | otherwise => goOn (i.push [.run otherwise isLast])
  | .loopTest whileFails test body last =>
    goOn (i.beginTest test [.loopBody whileFails test body last])
  | .loopBody whileFails test body last =>
    if (status = 0) != whileFails then
      goOn (i.push [.run body false, .setLast whileFails test body])
    else goOn (i.setStatus last)
  | .setLast whileFails test body => goOn (i.push [.loopTest whileFails test body status])
  | .forEach name values body =>
    match values with
    | [] => goOn i
    | value :: values =>
      match i.memory.assign? name value with
      | .ok m => goOn ((i.withMemory m).push [.run body false, .forEach name values body])
      | .error text => goOn (i.giveUp text)
  | .restore descriptors caller =>
    restoreDescriptors descriptors
    goOn (i.calling caller)
  | .leaveFunction arguments (optionIndex, letterIndex) locals switches =>
    let m := { i.memory with arguments, optionIndex, letterIndex }
    let m := { m with switches := switches.getD m.switches }
    goOn (i.withMemory (putBack m locals))
  | .leaveSource | .shield | .outside _ => goOn i
  | .restoreVariables old => goOn (i.withMemory (putBack i.memory old))
  | .await children => i.awaitChildren children
  | .wait jobs tellsStatus => i.awaitJobs tellsStatus jobs
  | .write command descriptor data => i.writeOut command descriptor data
  | .trace handle data => i.writeTrace handle data
  | .readLine raw names taken => i.readOn raw names taken
  | .setStatus status => goOn (i.setStatus status)
  | .endTest tested => goOn { i with tested }
  | .endTrap status beforeTrap => goOn (Interpreter.setStatus { i with beforeTrap } status)
  | .checkFailure =>
    if i.memory.isOn .stopsOnFailure && status != 0 && !i.tested then goOn (i.push [.exit none])
    else goOn i
  | .fail => goOn i.failOut
  | .perish signal => return (.shell i, .ends (.signal signal))
  | .exit given => i.finish (given.getD status)

/-- One step of a shell. -/
def step (i : Interpreter) : Step :=
  match i.tasks with
  | [] => i.finish i.memory.status
  | t :: tasks =>
    match i.pending with
    | n :: pending =>
      if answersBefore t then
        let least := pending.foldl min n
        goOn (Interpreter.answer { i with pending := i.pending.filter (· != least) } least)
      else carryOut { i with tasks } t
    | [] => carryOut { i with tasks } t

end Interpreter

end Rehearsal.Shell
