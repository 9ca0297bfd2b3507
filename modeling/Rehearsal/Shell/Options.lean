import Rehearsal.Shell.Word

/-!
# Switches and options

The switches of a shell have names, and most have letters. Options of a command are letters after a
dash, some of which take an argument; they end at the first word that is none, or after two dashes.
-/

namespace Rehearsal.Shell

/-- A switch of a shell. -/
inductive Switch where
  | stopsOnFailure
  | keepsPatterns
  | ignoresEnd
  | interactive
  | monitors
  | onlyReads
  | readsInput
  | traces
  | echoesSource
  | editsAsVi
  | editsAsEmacs
  | spareFiles
  | exportsAll
  | notifies
  | refusesUnset
  | privileged
  | forgetsLines
  | debugs
  deriving DecidableEq, Repr

namespace Switch

/-- All switches with their letters and names, in the order in which they are listed. -/
def table : List (Switch × Option Char × String) := [
  (.stopsOnFailure, some 'e', "errexit"), (.keepsPatterns, some 'f', "noglob"),
  (.ignoresEnd, some 'I', "ignoreeof"), (.interactive, some 'i', "interactive"),
  (.monitors, some 'm', "monitor"), (.onlyReads, some 'n', "noexec"),
  (.readsInput, some 's', "stdin"), (.traces, some 'x', "xtrace"),
  (.echoesSource, some 'v', "verbose"), (.editsAsVi, some 'V', "vi"),
  (.editsAsEmacs, some 'E', "emacs"), (.spareFiles, some 'C', "noclobber"),
  (.exportsAll, some 'a', "allexport"), (.notifies, some 'b', "notify"),
  (.refusesUnset, some 'u', "nounset"), (.privileged, some 'p', "privileged"),
  (.forgetsLines, none, "nolog"), (.debugs, none, "debug")]

def ofLetter? (c : Char) : Option Switch := (table.find? (·.2.1 == some c)).map (·.1)

def ofName? (name : Text) : Option Switch := (table.find? (·.2.2.toList == name)).map (·.1)

/-- Turn a switch on or off. Only one of the two ways of editing can be on. -/
def set (on : List Switch) (s : Switch) (value : Bool) : List Switch :=
  let others := on.filter (· != s)
  if !value then others
  else match s with
    | .editsAsVi => s :: others.filter (· != .editsAsEmacs)
    | .editsAsEmacs => s :: others.filter (· != .editsAsVi)
    | _ => s :: others

/-- What is said by a shell that is to control its jobs, for which it would need a terminal. -/
def noTerminal : String := "can't access tty; job control turned off"

/-- The letters of the switches that are on, the last one of the table first. -/
def letters (on : List Switch) : Text :=
  table.reverse.filterMap fun (s, letter, _) => if on.contains s then letter else none

/-- A listing of all switches, for people or as commands. -/
def listing (on : List Switch) (asCommands : Bool) : Text :=
  let line : Switch × Option Char × String → Text := fun (s, _, name) =>
    let isOn := on.contains s
    if asCommands then (if isOn then "set -o " else "set +o ").toList ++ name.toList ++ ['\n']
    else name.toList ++ List.replicate (16 - name.length) ' ' ++
      (if isOn then "on\n" else "off\n").toList
  (if asCommands then [] else "Current option settings\n".toList) ++ table.flatMap line

end Switch

/-- What is said of an option that there is not. -/
def illegalOption (c : Char) : String := "Illegal option -" ++ String.singleton c

/-- What the words of a command line change about a shell. -/
structure SwitchReading where
  on : List Switch
  /-- What is written on the way: listings of the switches. -/
  listed : Text := []
  /-- The words after the options. -/
  operands : List Text := []
  /-- Did two dashes end the options? -/
  endedByDashes : Bool := false
  /-- Is the source of the shell one of the operands? -/
  fromArgument : Bool := false

namespace SwitchReading

/-- Read the letters of one word. The words that are left are those that a letter may take. -/
def readLetters (starts value : Bool) :
    SwitchReading → Text → List Text → Except String (SwitchReading × List Text)
  | r, [], words => .ok (r, words)
  | r, c :: cs, words =>
    if starts && c = 'c' then readLetters starts value { r with fromArgument := true } cs words
    else if starts && c = 'l' then readLetters starts value r cs words
    else if c = 'o' then
      match words with
      | [] => readLetters starts value
          { r with listed := r.listed ++ Switch.listing r.on (!value) } cs []
      | name :: words =>
        match Switch.ofName? name with
        | some s => readLetters starts value { r with on := Switch.set r.on s value } cs words
        | none => .error ("Illegal option -o " ++ String.ofList name)
    else match Switch.ofLetter? c with
      | some s => readLetters starts value { r with on := Switch.set r.on s value } cs words
      | none => .error (illegalOption c)

/-- Read the words that change switches. With `starts` they are those that a shell is started
with. -/
def read (starts : Bool) : Nat → SwitchReading → List Text → Except String SwitchReading
  | 0, r, words => .ok { r with operands := words }
  | _ + 1, r, [] => .ok r
  | fuel + 1, r, w :: ws =>
    match w with
    | ['-'] =>
      let on := if starts then r.on
        else r.on.filter fun s => s != .traces && s != .echoesSource
      .ok { r with on, operands := ws }
    | ['-', '-'] => .ok { r with operands := ws, endedByDashes := true }
    | sign :: letters =>
      if sign = '-' || sign = '+' then do
        let (r, ws) ← readLetters starts (sign = '-') r letters ws
        read starts fuel r ws
      else .ok { r with operands := w :: ws }
    | [] => .ok { r with operands := w :: ws }

end SwitchReading

/-! ### Options of commands -/

/-- Options with their arguments, and the words after them. -/
structure OptionReading where
  options : List (Char × Option Text) := []
  operands : List Text

namespace OptionReading

def has (r : OptionReading) (c : Char) : Bool := r.options.any (·.1 == c)

/-- The argument of an option. -/
def argument? (r : OptionReading) (c : Char) : Option Text :=
  (r.options.findSome? fun o => if o.1 == c then some o.2 else none).join

/-- Read the letters of one word. -/
def readLetters (plain withArgument : List Char) :
    OptionReading → Text → Except String OptionReading
  | r, [] => .ok r
  | r, c :: cs =>
    if withArgument.contains c then
      if !cs.isEmpty then .ok { r with options := r.options ++ [(c, some cs)] }
      else match r.operands with
        | argument :: operands => .ok { options := r.options ++ [(c, some argument)], operands }
        | [] => .error ("No arg for -" ++ String.singleton c ++ " option")
    else if plain.contains c then
      readLetters plain withArgument { r with options := r.options ++ [(c, none)] } cs
    else .error (illegalOption c)

/-- Read the options of a command: letters without an argument, and letters with one. -/
def read (plain withArgument : List Char) : Nat → OptionReading → Except String OptionReading
  | 0, r => .ok r
  | fuel + 1, r =>
    match r.operands with
    | ['-', '-'] :: operands => .ok { r with operands }
    | ('-' :: c :: cs) :: operands => do
      let r ← readLetters plain withArgument { r with operands } (c :: cs)
      read plain withArgument fuel r
    | _ => .ok r

end OptionReading

/-- Read the options of a command. -/
def readOptions (plain withArgument : String) (args : List Text) : Except String OptionReading :=
  OptionReading.read plain.toList withArgument.toList (args.length + 1) { operands := args }

end Rehearsal.Shell
