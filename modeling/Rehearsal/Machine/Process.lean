import Rehearsal.Files.Store
import Rehearsal.Machine.Pipe
import Rehearsal.Machine.Signal
import Rehearsal.Machine.Tool
import Rehearsal.Shell.Task

/-!
# Processes

A machine runs processes side by side on a clock of its own. A process has descriptors, each of
which leads to a handle: an end of a pipe, a file and a place in it, or a device. Handles are
shared by the copies of a descriptor. An end of a pipe is held as long as a living process can
reach it; the tester holds one end of each of the first three pipes.

What a process does to the machine is an `Act`, made of the calls below. The process at work is kept
apart from the others.
-/

namespace Rehearsal

open Shell (Text)

namespace Machine

/-- What a handle leads to. -/
inductive Resource where
  | pipeEnd (writes : Bool) (pipe : Nat)
  | file (place : Place)
  | device (d : Device)
  deriving DecidableEq, Repr

/-- A handle. -/
structure Handle where
  resource : Resource
  offset : Nat := 0
  appends : Bool := false

/-- How a process ended. -/
inductive ExitStatus where
  | code (n : Nat)
  | signal (n : Nat)
  deriving DecidableEq, Repr

/-- The status that a shell sees. -/
def ExitStatus.shellStatus : ExitStatus → Nat
  | .code n => n
  | .signal n => 128 + n

/-- What a process runs. -/
inductive Program where
  | shell (i : Shell.Interpreter)
  | tool (t : Tool)

/-- A process. -/
structure Process where
  id : Nat
  parent : Nat
  /-- The handle of each descriptor. -/
  descriptors : List (Nat × Nat)
  directory : Place
  program : Program
  /-- When the process goes on; `none` while it waits for something to change. -/
  wakesAt : Option Nat
  ended : Option ExitStatus := none
  /-- Has its parent got a signal about its end? -/
  announced : Bool := false
  /-- Has its parent seen its end? Then it is only remembered. -/
  seen : Bool := false
  /-- The signals that do nothing to it. Its children ignore them too. -/
  ignored : List Nat := []
  /-- Is it stopped? These are the signals that have come since. -/
  stopped : Option (List Nat) := none

namespace Process

/-- The handles that a process can reach. -/
def handles (p : Process) : List Nat :=
  if p.ended.isSome then []
  else p.descriptors.map (·.2) ++ match p.program with
    | .shell i => i.heldHandles
    | .tool _ => []

/-- The handle of a descriptor. -/
def handle? (p : Process) (descriptor : Nat) : Option Nat := p.descriptors.lookup descriptor

/-- Let a descriptor lead to a handle, or nowhere. -/
def setDescriptor (p : Process) (descriptor : Nat) (handle : Option Nat) : Process :=
  let others := p.descriptors.filter (·.1 != descriptor)
  { p with descriptors := match handle with
    | some h => (descriptor, h) :: others
    | none => others }

/-- The lowest descriptor that leads nowhere. -/
def freeDescriptor (p : Process) : Nat :=
  ((List.range (p.descriptors.length + 1)).find? fun n => (p.handle? n).isNone).getD 0

end Process

end Machine

/-- A machine. -/
structure Machine where
  /-- Nanoseconds since the start. -/
  now : Nat := 0
  files : FileTree
  pipes : Array Machine.Pipe := #[]
  handles : Array Machine.Handle := #[]
  /-- The processes other than the one at work. -/
  processes : List Machine.Process := []
  nextProcess : Nat := 100
  /-- Does the tester still hold the end of the first pipe that it writes to? -/
  inputHeld : Bool := true
  /-- Has anything changed for which a process may wait? -/
  changed : Bool := false
  /-- How many bytes the process at work has read and written. -/
  moved : Nat := 0
  /-- How many steps the processes have made. -/
  steps : Nat := 0

namespace Machine

/-- What a process works on: the rest of the machine and itself. -/
structure Scope where
  machine : Machine
  self : Process

/-- Something that a process does to the machine. -/
abbrev Act := StateM Scope

/-- The nanoseconds from the birth of a process to its first step. -/
def birthDelay : Nat := 500000

/-- The nanoseconds that a waiting process needs to wake up. -/
def wakeDelay : Nat := 20000

/-- The nanoseconds that a step takes, after so many others and with so many bytes moved. The clock
goes faster on a machine that has been at work for long, so that its end is not far. -/
def stepCost (steps moved : Nat) : Nat :=
  (if steps < 4000000 then 100 else if steps < 8000000 then 1000 else 10000) + moved / 4

namespace Act

def self : Act Process := return (← get).self

def machine : Act Machine := return (← get).machine

def modifyMachine (f : Machine → Machine) : Act Unit :=
  modify fun s => { s with machine := f s.machine }

def modifySelf (f : Process → Process) : Act Unit := modify fun s => { s with self := f s.self }

/-- Bytes were read or written. -/
def countMoved (count : Nat) : Act Unit :=
  modifyMachine fun m => { m with moved := m.moved + count }

/-- Something happened for which other processes may wait. -/
def announce : Act Unit := modifyMachine ({ · with changed := true })

end Act

/-! ### Pipes -/

/-- What a handle leads to. -/
def resource? (m : Machine) (handle : Nat) : Option Resource := m.handles[handle]?.map (·.resource)

/-- Does the tester, or one of these processes, hold this end of a pipe? -/
def isHeldAmong (m : Machine) (ps : List Process) (writes : Bool) (pipe : Nat) : Bool :=
  let leads (h : Nat) : Bool := m.resource? h == some (.pipeEnd writes pipe)
  ps.any (fun p => p.handles.any leads) ||
    (pipe = 0 && writes && m.inputHeld) || ((pipe = 1 || pipe = 2) && !writes)

/-- Does anyone hold this end of a pipe? -/
def isHeld (m : Machine) (self : Process) (writes : Bool) (pipe : Nat) : Bool :=
  m.isHeldAmong (self :: m.processes) writes pipe

def pipe (m : Machine) (n : Nat) : Pipe := m.pipes[n]?.getD {}

def setPipe (m : Machine) (n : Nat) (p : Pipe) : Machine :=
  { m with pipes := m.pipes.setIfInBounds n p }

def setHandle (m : Machine) (n : Nat) (h : Handle) : Machine :=
  { m with handles := m.handles.setIfInBounds n h }

/-- Make a handle. -/
def addHandle (m : Machine) (h : Handle) : Nat × Machine :=
  (m.handles.size, { m with handles := m.handles.push h })

/-- The contents of the file at a place. -/
def fileAt (m : Machine) (place : Place) : Bytes :=
  match m.files.lookup? place with
  | some (.file contents) => contents
  | _ => []

namespace Act

/-- Make a handle. -/
def newHandle (h : Handle) : Act Nat := do
  let (n, m) := (← machine).addHandle h
  modifyMachine fun _ => m
  return n

/-- Make a pipe: the handles of the end to read from and of the end to write to. -/
def newPipe : Act (Nat × Nat) := do
  let n := (← machine).pipes.size
  modifyMachine fun m => { m with pipes := m.pipes.push {} }
  let reading ← newHandle { resource := .pipeEnd false n }
  let writing ← newHandle { resource := .pipeEnd true n }
  return (reading, writing)

end Act

/-! ### Reading and writing -/

/-- What a write comes to. -/
inductive Written where
  | wrote (count : Nat)
  | wouldWait
  /-- Nobody will ever read it. -/
  | broken
  | badDescriptor
  | noSpace
  deriving DecidableEq, Repr

/-- What a read comes to. -/
inductive Received where
  | data (bytes : Bytes)
  | ended
  | wouldWait
  | badDescriptor
  | isDirectory
  deriving DecidableEq, Repr

/-- Portions of up to this size are written to a pipe as a whole. -/
def atomicSize : Nat := 4096

/-- How much is read at a time. -/
def readSize : Nat := 65536

/-- Put bytes into some contents at an offset, over what was there. -/
def splice (contents : Bytes) (offset : Nat) (data : Bytes) : Bytes :=
  contents.take offset ++ List.replicate (offset - contents.length) 0 ++ data ++
    contents.drop (offset + data.length)

namespace Act

/-- Write to a handle. -/
def writeHandle (h : Nat) (data : Bytes) : Act Written := do
  let m ← machine
  let p ← self
  let handle := m.handles[h]?.getD { resource := .device .null }
  match handle.resource with
  | .device .full => return if data.isEmpty then .wrote 0 else .noSpace
  | .device _ =>
    countMoved data.length
    return .wrote data.length
  | .pipeEnd false _ => return .badDescriptor
  | .pipeEnd true n =>
    if !m.isHeld p false n then return .broken
    let room := (m.pipe n).room
    if room = 0 || (data.length ≤ atomicSize && room < data.length) then return .wouldWait
    let portion := data.take room
    modifyMachine (·.setPipe n ((m.pipe n).push portion))
    countMoved portion.length
    announce
    return .wrote portion.length
  | .file place =>
    let old := m.fileAt place
    let offset := if handle.appends then old.length else handle.offset
    modifyMachine fun m =>
      { m with files := m.files.insert place (.file (splice old offset data)) }
    modifyMachine (·.setHandle h { handle with offset := offset + data.length })
    countMoved data.length
    return .wrote data.length

/-- Write to a descriptor. -/
def write (descriptor : Nat) (data : Bytes) : Act Written := do
  match (← self).handle? descriptor with
  | none => return .badDescriptor
  | some h => writeHandle h data

/-- Take bytes off what a handle leads to, as `choose` says of a pipe and of the rest of a file. -/
def receive (h : Nat) (fromPipe : Pipe → Bytes × Pipe) (fromFile : Bytes → Bytes) (zeros : Nat) :
    Act Received := do
  let m ← machine
  let p ← self
  let handle := m.handles[h]?.getD { resource := .device .null }
  match handle.resource with
  | .device .zeros | .device .full =>
    countMoved zeros
    return .data (List.replicate zeros 0)
  | .device _ => return .ended
  | .pipeEnd true _ => return .badDescriptor
  | .pipeEnd false n =>
    let pipe := m.pipe n
    if pipe.isEmpty then return if m.isHeld p true n then .wouldWait else .ended
    let (data, pipe) := fromPipe pipe
    modifyMachine (·.setPipe n pipe)
    countMoved data.length
    announce
    return .data data
  | .file place =>
    if m.files.hasDir place then return .isDirectory
    let data := fromFile ((m.fileAt place).drop handle.offset)
    if data.isEmpty then return .ended
    modifyMachine (·.setHandle h { handle with offset := handle.offset + data.length })
    countMoved data.length
    return .data data

/-- Read from a handle. -/
def readHandle (h : Nat) : Act Received :=
  receive h (·.take readSize) (·.take readSize) readSize

/-- Read from a descriptor. -/
def read (descriptor : Nat) : Act Received := do
  match (← self).handle? descriptor with
  | none => return .badDescriptor
  | some h => readHandle h

/-- Read so many bytes at most from a descriptor. -/
def readUpTo (descriptor size : Nat) : Act Received := do
  match (← self).handle? descriptor with
  | none => return .badDescriptor
  | some h => receive h (·.take size) (·.take size) size

/-- Read from a descriptor, no further than the next newline. -/
def readLine (descriptor : Nat) : Act Received := do
  match (← self).handle? descriptor with
  | none => return .badDescriptor
  | some h => receive h (·.takeLine) (fun b => (Bytes.splitFirstLine b).1) 1

/-! ### Files -/

/-- How a file is opened. -/
inductive Opening where
  | read
  | write
  | append
  | readWrite
  /-- To be written, but not over a file that is there. -/
  | create
  deriving DecidableEq, Repr

/-- Open what is at a place. -/
def openEntry (place : Place) (how : Opening) : Entry → Act (Except IoError Nat)
  | .device (.descriptor n) => do
    match (← self).handle? n with
    | some h => return .ok h
    | none => return .error .notFound
  | .device .terminal => return .error .noDevice
  | .device d => return .ok (← newHandle { resource := .device d })
  | .dir => do
    if how = .read then return .ok (← newHandle { resource := .file place })
    return .error .isADirectory
  | .program _ => do
    if how = .read then return .ok (← newHandle { resource := .file place })
    return .error .textFileBusy
  | .file _ => do
    if how = .create then return .error .alreadyExists
    if how = .write then
      modifyMachine fun m => { m with files := m.files.insert place (.file []) }
    return .ok (← newHandle { resource := .file place, appends := how = .append })

/-- Open a file. One that is to be written is made if it is missing. -/
def openFile (path : Text) (how : Opening) : Act (Except IoError Nat) := do
  let m ← machine
  let p ← self
  let path : Path := ⟨Text.toBytes path⟩
  match m.files.resolve p.directory path with
  | .ok place => openEntry place how ((m.files.lookup? place).getD .dir)
  | .error e =>
    if how = .read then return .error e
    match m.files.putFile p.directory path [] false with
    | .error e => return .error e
    | .ok files =>
      modifyMachine ({ · with files })
      match files.resolve p.directory path with
      | .ok place =>
        return .ok (← newHandle { resource := .file place, appends := how = .append })
      | .error e => return .error e

/-! ### Other processes -/

/-- Start a process with these descriptors. -/
def spawn (descriptors : List (Nat × Nat)) (program : Nat → Program) : Act Nat := do
  let m ← machine
  let p ← self
  let id := m.nextProcess
  let child : Process := {
    id
    parent := p.id
    descriptors
    directory := p.directory
    program := program id
    ignored := p.ignored
    wakesAt := some (m.now + birthDelay) }
  modifyMachine fun m => { m with processes := m.processes ++ [child], nextProcess := id + 1 }
  return id

/-- How a child ended, if it has; a process that is not there counts as ended well. -/
def childStatus (id : Nat) : Act (Option ExitStatus) := do
  match (← machine).processes.find? (·.id == id) with
  | some p => return p.ended
  | none => return some (.code 0)

/-- Change another process. -/
def modifyProcess (id : Nat) (f : Process → Process) : Act Unit :=
  modifyMachine fun m =>
    { m with processes := m.processes.map fun q => if q.id == id then f q else q }

end Act

/-- What a signal does to a process at a time. A shell may have a trap for it. -/
def Process.receive (p : Process) (now n : Nat) : Process :=
  if p.ended.isSome || n = 0 || (p.ignored.contains n && !Signal.isCompelling n) then p
  else
    let default : Process :=
      if Signal.isHarmless n then p
      else if Signal.stops n then { p with stopped := some [] }
      else { p with ended := some (.signal n), wakesAt := none }
    match p.program with
    | .tool _ => default
    | .shell i =>
      if (i.memory.trap? n).all (·.isEmpty) || Signal.isCompelling n then default
      else
        let i := { i with pending := i.pending.filter (· != n) ++ [n] }
        { p with program := .shell i, wakesAt := some (p.wakesAt.getD (now + wakeDelay)) }

/-- A process gets a signal; while it is stopped, signals pile up. -/
def Process.signal (p : Process) (now n : Nat) : Process :=
  match p.stopped with
  | none => p.receive now n
  | some waiting =>
    if n = Signal.kill then p.receive now n
    else if n = Signal.proceed then
      let p := { p with stopped := none, wakesAt := some (max (p.wakesAt.getD now) now) }
      waiting.foldl (fun p n => p.receive now n) p
    else { p with stopped := some (waiting ++ [n]) }

/-- Send a signal to another process. The result says whether it was there. -/
def Act.signal (id n : Nat) : Act Bool := do
  match (← Act.machine).processes.find? (·.id == id) with
  | none => return false
  | some p =>
    if p.seen then return false
    let now := (← Act.machine).now
    Act.modifyProcess id (·.signal now n)
    Act.announce
    return true

/-- What a step of a process came to. -/
inductive Turn where
  /-- It goes on at once. -/
  | goesOn
  /-- It waits for something to change. -/
  | waits
  /-- It goes on after so many nanoseconds. -/
  | sleeps (nanoseconds : Nat)
  | ends (status : ExitStatus)
  deriving Repr

end Machine

end Rehearsal
