import Rehearsal.Shell.Command
import Rehearsal.Shell.Options

/-!
# What a shell remembers

Its parameters, variables, functions and aliases, how its last command ended, its children, and its
switches. The special parameters are read from all of these.
-/

namespace Rehearsal.Shell

/-- A variable. It may have no value, and yet be passed on once it has one. -/
structure Variable where
  value : Option Text
  /-- Is it passed on to other programs? -/
  exported : Bool := false
  readOnly : Bool := false

/-- A job: processes that run in the background. -/
structure Job where
  number : Nat
  processes : List Nat
  /-- Was its end waited for? -/
  waited : Bool := false

/-- What a shell remembers. -/
structure Memory where
  /-- What the shell calls itself. -/
  name : Text
  /-- The number of the process that the shell began as. -/
  process : Nat
  arguments : List Text := []
  bindings : List (Text × Variable) := []
  functions : List (Text × Command) := []
  aliases : List (Text × Text) := []
  /-- How the last command ended. -/
  status : Nat := 0
  /-- The last process that was left running. -/
  background : Option Nat := none
  /-- The jobs, the newest first. -/
  jobs : List Job := []
  switches : List Switch := []
  /-- What is done when the shell gets a signal, by its number, or ends, which has the number zero.
  Nothing at all is done for an empty text. -/
  traps : List (Nat × Text) := []
  /-- The names of programs that have been found, with their paths. -/
  found : List (Text × Text) := []
  /-- For options that are read one at a time: the word that is next, counted from one. -/
  optionIndex : Nat := 1
  /-- For options that are read one at a time: how much of the word before has been read, if it is
  not over. -/
  letterIndex : Option Nat := none
  /-- The rights that new files do not get. -/
  mask : Nat := 0o22
  /-- The line of the command under way. -/
  line : Nat := 1
  /-- The command of the shell's own that is under way. Messages name it. -/
  caller : Option Text := none
  /-- How the last command ended whose output stands in the words of the command under way. -/
  outputStatus : Nat := 0

namespace Memory

/-- Put an entry into a list of pairs, over one with its key. -/
def put {α : Type} (entries : List (Text × α)) (key : Text) (value : α) : List (Text × α) :=
  if entries.any (·.1 == key) then entries.map fun e => if e.1 == key then (key, value) else e
  else entries ++ [(key, value)]

def isOn (m : Memory) (s : Switch) : Bool := m.switches.contains s

/-- Turn a switch on or off. -/
def turn (m : Memory) (s : Switch) (value : Bool) : Memory :=
  { m with switches := Switch.set m.switches s value }

/-- The value of a variable. -/
def valueOf? (m : Memory) (name : Text) : Option Text :=
  (m.bindings.lookup name).bind (·.value)

def isReadOnly (m : Memory) (name : Text) : Bool :=
  (m.bindings.lookup name).any (·.readOnly)

/-- Give a variable a value, whether it may be changed or not. -/
def assign (m : Memory) (name value : Text) : Memory :=
  let old := (m.bindings.lookup name).getD { value := none }
  let exported := old.exported || m.isOn .exportsAll
  let m := if name == "OPTIND".toList then
      { m with optionIndex := max 1 ((Text.toNat? value).getD 1), letterIndex := none }
    else m
  let m := if name == "PATH".toList then { m with found := [] } else m
  { m with bindings := put m.bindings name { old with value := some value, exported } }

/-- What is said of a variable that may not be changed. -/
def readOnlyMessage (name : Text) : String := String.ofList name ++ ": is read only"

/-- Give a variable a value, unless it may not be changed. -/
def assign? (m : Memory) (name value : Text) : Except String Memory :=
  if m.isReadOnly name then .error (readOnlyMessage name) else .ok (m.assign name value)

/-- Mark a variable, which may have no value yet. -/
def mark (m : Memory) (name : Text) (f : Variable → Variable) : Memory :=
  { m with bindings := put m.bindings name (f ((m.bindings.lookup name).getD { value := none })) }

def unset (m : Memory) (name : Text) : Memory :=
  { m with bindings := m.bindings.filter (·.1 != name) }

/-- The variables that other programs get. -/
def exports (m : Memory) : List (Text × Text) :=
  m.bindings.filterMap fun (name, v) =>
    if v.exported then v.value.map (name, ·) else none

/-- The characters at which fields are split. -/
def separators (m : Memory) : Text := (m.valueOf? "IFS".toList).getD " \t\n".toList

/-- Where programs are looked for. -/
def searchPath (m : Memory) : Text := (m.valueOf? "PATH".toList).getD []

/-- The value of a parameter that is one text. -/
def parameter? (m : Memory) (name : Text) : Option Text :=
  match name with
  | ['#'] => some (.ofNat m.arguments.length)
  | ['?'] => some (.ofNat m.status)
  | ['$'] => some (.ofNat m.process)
  | ['!'] => m.background.map .ofNat
  | ['-'] => some (Switch.letters m.switches)
  | _ =>
    match Text.toNat? name with
    | some 0 => some m.name
    | some (n + 1) => m.arguments[n]?
    | none => m.valueOf? name

/-- Does a parameter stand for all arguments? -/
def isAll (name : Text) : Bool := name == ['@'] || name == ['*']

/-- The arguments with a text between them. -/
def joined (m : Memory) (between : Text) : Text := between.intercalate m.arguments

/-- The lowest number for a new job, and the jobs without one that has it but is no longer of
interest. -/
def claimJob (m : Memory) : Nat × Memory :=
  let numbers := (List.range (m.jobs.length + 1)).map (· + 1)
  let isFree (n : Nat) : Bool := m.jobs.all fun j => j.number != n || j.waited
  let n := (numbers.find? isFree).getD (m.jobs.length + 1)
  (n, { m with jobs := m.jobs.filter (·.number != n) })

/-- What is done when the shell gets a signal. -/
def trap? (m : Memory) (signal : Nat) : Option Text := m.traps.lookup signal

/-- Is something done when the shell ends or gets a signal? -/
def hasTraps (m : Memory) : Bool := m.traps.any fun t => !t.2.isEmpty

/-- A text between single quotes, as the shell would read it. -/
def quoted (t : Text) : Text :=
  let rec go : Nat → Text → Text
    | 0, _ => []
    | fuel + 1, t =>
      let plain := t.takeWhile (· != '\'')
      let rest := t.dropWhile (· != '\'')
      let quotes := rest.takeWhile (· == '\'')
      let rest := rest.dropWhile (· == '\'')
      let marks := if quotes.isEmpty then [] else '"' :: quotes ++ ['"']
      '\'' :: plain ++ '\'' :: marks ++ if rest.isEmpty then [] else go fuel rest
  go (t.length + 1) t

/-- The order in which names are kept that are spread over so many rows. -/
def spread {α : Type} (rows : Nat) (entries : List (Text × α)) : List (Text × α) :=
  let row (name : Text) : Nat :=
    name.foldl (fun n c => n + c.toNat) (16 * (name.head?.map Char.toNat).getD 0) % rows
  entries.mergeSort fun a b => row a.1 ≤ row b.1

/-- A listing of aliases. -/
def aliasLine (a : Text × Text) : Text := a.1 ++ '=' :: quoted a.2 ++ ['\n']

/-- Variables as a listing, in the order of their names, each line after a beginning. -/
def listing (m : Memory) (begin : Text) (wanted : Variable → Bool) : Text :=
  let chosen := m.bindings.filter fun (_, v) => wanted v
  let sorted := chosen.mergeSort fun a b => !decide (b.1 < a.1)
  sorted.flatMap fun (name, v) =>
    begin ++ name ++ (match v.value with
      | some value => '=' :: quoted value
      | none => []) ++ ['\n']

end Memory

end Rehearsal.Shell
