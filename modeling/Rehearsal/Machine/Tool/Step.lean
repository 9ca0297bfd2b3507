import Rehearsal.Machine.Process
import Rehearsal.Machine.Tool.Condition

/-!
# A step of a program

What the programs of the machine do to it, one call at a time.
-/

namespace Rehearsal.Machine

open Shell (Text)

namespace Act

/-- Does a file or a device look as a letter asks? -/
def looks (m : Machine) (p : Process) (letter : Char) (place : Place) : Bool :=
  let entry := (m.files.lookup? place).getD .dir
  match letter with
  | 'e' | 'r' | 'w' | 'O' | 'G' => true
  | 'd' => entry == .dir
  | 'x' => entry == .dir || m.files.canRun place
  | 'f' => entry.isRegular
  | 's' => match entry with
    | .file contents => !contents.isEmpty
    | .dir | .program _ => true
    | .device _ => false
  | 'c' => match entry with
    | .device (.descriptor _) => false
    | .device _ => true
    | _ => false
  | 'p' => match entry with
    | .device (.descriptor n) =>
      match (p.handle? n).bind m.resource? with
      | some (.pipeEnd ..) => true
      | _ => false
    | _ => false
  | 'h' | 'L' => match entry with
    | .device (.descriptor _) => true
    | _ => false
  | 'k' => place == [(.ofString "tmp")]
  | _ => false

/-- How the files look to a process. -/
def fileView : Act Shell.FileView := do
  let m ← machine
  let p ← self
  let place? (t : Text) : Option Place :=
    (m.files.resolve p.directory ⟨Text.toBytes t⟩).toOption
  return {
    has := fun letter t => (place? t).any (looks m p letter)
    isSame := fun a b => (place? a).isSome && place? a == place? b }

/-- Open a file on the lowest free descriptor. -/
def openDescriptor (path : Text) (how : Opening) : Act (Except IoError Nat) := do
  match ← openFile path how with
  | .error e => return .error e
  | .ok h =>
    let descriptor := (← self).freeDescriptor
    modifySelf (·.setDescriptor descriptor (some h))
    return .ok descriptor

/-- Does a descriptor lead to a file? -/
def isFile (descriptor : Nat) : Act Bool := do
  match (← self).handle? descriptor with
  | none => return false
  | some h =>
    match (← machine).resource? h with
    | some (.file _) => return true
    | _ => return false

end Act

namespace Tool

/-- What is said of a file that cannot be changed. -/
def cannot (what : String) (file : Text) (reason : String) : String :=
  what ++ " " ++ quoted file ++ ": " ++ reason

/-- Make a change to one file; what goes wrong is a message. -/
def changeFile (c : FileChange) (file : Text) : Act (Option String) := do
  let m ← Act.machine
  let cwd := (← Act.self).directory
  let path : Path := ⟨Text.toBytes file⟩
  let keep (files : FileTree) : Act (Option String) := do
    Act.modifyMachine ({ · with files })
    return none
  match c with
  | .touch makes =>
    if m.files.isReachable cwd path || !makes then return none
    else match m.files.putFile cwd path [] false with
      | .ok files => keep files
      | .error e => return some (cannot "cannot touch" file e.reason)
  | .makeDir parents =>
    if parents then
      match m.files.makeDirs cwd path.ancestors with
      | (files, .ok ()) => keep files
      | (files, .error e) =>
        Act.modifyMachine ({ · with files })
        return some (cannot "cannot create directory" file e.reason)
    else match m.files.makeDir cwd path with
      | .ok files => keep files
      | .error e => return some (cannot "cannot create directory" file e.reason)
  | .removeDir =>
    let refuse (reason : String) : Act (Option String) :=
      return some (cannot "failed to remove" file reason)
    match m.files.resolve cwd path with
    | .error e => refuse e.reason
    | .ok place =>
      if !m.files.hasDir place then refuse "Not a directory"
      else if path.names.getLast?.any Path.isDot then refuse "Invalid argument"
      else if !(m.files.children place).isEmpty then refuse "Directory not empty"
      else keep (m.files.erase place)
  | .remove force recursive =>
    match m.files.resolve cwd path with
    | .error e =>
      if force && (e == .notFound || e == .notADirectory) then return none
      else return some (cannot "cannot remove" file e.reason)
    | .ok place =>
      if m.files.hasDir place && !recursive then
        return some (cannot "cannot remove" file "Is a directory")
      else if path.names.getLast?.any fun n => Path.isDot n || Path.isDotDot n then
        return some ("refusing to remove '.' or '..' directory: skipping " ++ quoted file)
      else keep (m.files.erase place)
  | .mark runs =>
    match m.files.resolve cwd path with
    | .error e => return some (cannot "cannot access" file e.reason)
    | .ok place =>
      match runs with
      | none => return none
      | some runs => keep (m.files.setExecutable place runs)

/-! ### Filters -/

/-- Write the output of a filter and go on with the filter. -/
def afterWrite (f : Flow) (data : Bytes) (next : Tool) : Tool :=
  f.copies.foldr (fun descriptor next => .write f.name descriptor data next) next
    |> Tool.write f.name 1 data

/-- Pass output on, or hold it back until a block is full. -/
def emit (f : Flow) (out : Bytes) : Tool :=
  if out.isEmpty then .flow f
  else if !f.inBlocks then afterWrite f out (.flow f)
  else
    let held := out :: f.held
    if atomicSize ≤ Pipe.sizeOf held then
      afterWrite f held.reverse.flatten (.flow { f with held := [] })
    else .flow { f with held }

/-- Write what is held back, and go on. -/
def release (f : Flow) (next : Flow → Tool) : Tool :=
  let out := f.held.reverse.flatten
  let f := { f with held := [] }
  if out.isEmpty then next f else afterWrite f out (next f)

/-- The end of a filter. -/
def finishFlow (f : Flow) : Tool :=
  release { f with held := f.filter.finish :: f.held } fun f =>
    match if f.badInput then f.lastWords else none with
    | some what => complain f.name (what ++ ": Bad file descriptor") 1
    | none => .finish f.status

/-- Complain about an input, for which what is held back is written first. A program that sorts gives
up, others go on with the next input. -/
def skipInput (f : Flow) (what : String) : Tool :=
  release f fun f => .write f.name 2 (message f.name what)
    (if f.wording = .sorting then .finish 2
      else .flow { f with inputs := f.inputs.drop 1, current := none, status := 1 })

/-- Begin with an input that has been opened. -/
def beginInput (f : Flow) (name : Text) (current : Nat × Bool) : Tool :=
  let title := match f.titles with
    | none => []
    | some written =>
      (if written then ['\n'] else []) ++ "==> ".toList ++ Wording.inputName name ++ " <==\n".toList
  emit { f with
    current := some current
    filter := f.filter.opened
    titles := f.titles.map fun _ => true } (Text.toBytes title)

/-- End with an input, and go on with the next one. -/
def endInput (f : Flow) : Tool :=
  let name := f.inputs.head?.filter (· != ['-'])
  let (filter, out) := f.filter.closed name
  emit { f with filter, inputs := f.inputs.drop 1, current := none } out

/-- Is an input the file that the output goes to, so that reading it would have no end? -/
def feedsItself (descriptor : Nat) : Act Bool := do
  let m ← Act.machine
  let p ← Act.self
  match p.handle? descriptor >>= (m.handles[·]?), p.handle? 1 >>= (m.handles[·]?) with
  | some input, some output =>
    let isFile := match output.resource with
      | .file _ => true
      | _ => false
    return isFile && input.resource == output.resource &&
      (output.appends || input.offset < output.offset)
  | _, _ => return false

/-- A step of a filter. -/
def stepFlow (f : Flow) : Act (Tool × Turn) := do
  match f.current with
  | none =>
    match f.inputs with
    | [] => return (finishFlow f, .goesOn)
    | path :: _ =>
      if f.guardsOutput && ((← Act.self).handle? 1).isNone then
        return (complain f.name "standard output: Bad file descriptor" 1, .goesOn)
      let opened ← if path = ['-'] then pure (.ok 0) else Act.openDescriptor path .read
      match opened with
      | .ok descriptor =>
        if f.guardsOutput && (← feedsItself descriptor) then
          return (skipInput f (named path ++ ": input file is output file"), .goesOn)
        return (beginInput f path (descriptor, path != ['-']), .goesOn)
      | .error e => return (skipInput f (f.wording.openMessage path e.reason), .goesOn)
  | some (descriptor, closes) =>
    let close : Act Unit := do
      if closes then Act.modifySelf (·.setDescriptor descriptor none)
    let name := f.inputs.headD []
    if f.filter.hasEnough then
      close
      return (endInput f, .goesOn)
    match ← Act.read descriptor with
    | .data data =>
      let (filter, out) := f.filter.take data
      return (emit { f with filter } out, .goesOn)
    | .wouldWait => return (.flow f, .waits)
    | .ended =>
      close
      return (endInput f, .goesOn)
    | .isDirectory =>
      close
      return (skipInput f (f.wording.readMessage name "Is a directory"), .goesOn)
    | .badDescriptor =>
      let f := { f with badInput := true }
      return (skipInput f (f.wording.readMessage name "Bad file descriptor"), .goesOn)

/-- The size of an input, if it is a file. -/
def sizeOf? (m : Machine) (p : Process) (input : Text) : Option Nat :=
  if input = ['-'] then
    match (p.handle? 0).bind m.resource? with
    | some (.file place) => some (m.fileAt place).length
    | _ => none
  else
    match m.files.resolve p.directory ⟨Text.toBytes input⟩ with
    | .ok place =>
      match m.files.lookup? place with
      | some (.file contents) => some contents.length
      | _ => none
    | .error _ => none

/-- How wide counts are written: as wide as the size of all inputs together, and wider if one of them
is no file. A single count of a single input needs no width. -/
def countWidth (m : Machine) (p : Process) (style : CountStyle) (inputs : List Text) : Nat :=
  let isThere (t : Text) : Bool :=
    t = ['-'] || m.files.isReachable p.directory ⟨Text.toBytes t⟩
  let counts := [style.lines, style.words, style.bytes, style.longest].count true
  if (inputs.length = 1 && counts = 1) || !(inputs.head?.any isThere) then 1
  else
    let sizes := (inputs.filter isThere).map (sizeOf? m p)
    let total := (sizes.map fun n => n.getD 0).foldl (· + ·) 0
    max (Text.ofNat total).length (if sizes.any (·.isNone) then 7 else 1)

/-- What a write comes to: `rest` is what is still to be done if only a part was written. -/
def afterWritten (name : String) (descriptor : Nat) (size : Nat) (again next : Tool)
    (rest : Nat → Tool) : Written → Tool × Turn
  | .wrote n => (if n < size then rest n else next, .goesOn)
  | .wouldWait => (again, .waits)
  | .broken => (again, .ends (.signal Signal.brokenPipe))
  | .badDescriptor =>
    if descriptor = 2 then (next, .goesOn)
    else (complain name "write error: Bad file descriptor" 1, .goesOn)
  | .noSpace => (complain name "write error: No space left on device" 1, .goesOn)

/-- One step of a program. -/
def step (t : Tool) : Act (Tool × Turn) := do
  match t with
  | .finish status => return (t, .ends (.code status))
  | .write name descriptor data next =>
    if data.isEmpty then return (next, .goesOn)
    return afterWritten name descriptor data.length t next
      (fun n => .write name descriptor (data.drop n) next) (← Act.write descriptor data)
  | .pause (some n) next => return (next, .sleeps n)
  | .pause none _ => return (t, .waits)
  | .endless name data =>
    return afterWritten name 1 data.length t t
      (fun n => .write name 1 (data.drop n) t) (← Act.write 1 data)
  | .flow f => stepFlow f
  | .measure style f =>
    let width := countWidth (← Act.machine) (← Act.self) style f.inputs
    let total : Option Counts := if 1 < f.inputs.length then some {} else none
    return (.flow { f with filter := .count { style with width } total [] }, .goesOn)
  | .duplicate appends files f =>
    match files with
    | [] => return (.flow f, .goesOn)
    | file :: files =>
      match ← Act.openDescriptor file (if appends then .append else .write) with
      | .ok descriptor =>
        return (.duplicate appends files { f with copies := f.copies ++ [descriptor] }, .goesOn)
      | .error e =>
        return (.write f.name 2 (message f.name (named file ++ ": " ++ e.reason))
          (.duplicate appends files { f with status := 1 }), .goesOn)
  | .change name c files status =>
    match files with
    | [] => return (.finish status, .goesOn)
    | file :: files =>
      match ← changeFile c file with
      | none => return (.change name c files status, .goesOn)
      | some what =>
        return (.write name 2 (message name what) (.change name c files 1), .goesOn)
  | .condition name bracketed words =>
    match Check.value (← Act.fileView) bracketed words with
    | .ok b => return (.finish (if b then 0 else 1), .goesOn)
    | .error e => return (complain name e.message 2, .goesOn)

end Tool

end Rehearsal.Machine
