import Rehearsal.Shell.Builtin.Surroundings

/-!
# What a command line leads to

The first word of a command line is the name of a function, of a command of the shell's own, or of a
program. In front of it the word `command` may say that no function is meant; then it is a command
like any other, even if it is more than a command by itself.
-/

namespace Rehearsal.Shell

/-- What the name of a command leads to. -/
inductive Leads where
  | nowhere
  | function (body : Command)
  | builtin (name : Text)
  | program

/-- What a command line leads to. -/
structure Lookup where
  leads : Leads
  /-- The words from the name on. -/
  words : List Text
  /-- Is it more than a command? -/
  isSpecial : Bool := false
  /-- Where a program is looked for, if not where the shell looks. -/
  path : Option Text := none

namespace Lookup

/-- The command line after the word `command`, and whether the standard path is meant; none if the
word is a command by itself. -/
def afterCommand : List Text → Bool → Option (Bool × List Text)
  | [], _ => none
  | w :: ws, standard =>
    match w with
    | ['-', '-'] => if ws.isEmpty then none else some (standard, ws)
    | '-' :: c :: cs => if (c :: cs).all (· == 'p') then afterCommand ws true else none
    | _ => some (standard, w :: ws)

/-- Look up a command line. With `direct` it follows the word `command`. -/
def find (m : Memory) : Nat → Bool → Option Text → List Text → Lookup
  | _, _, _, [] => { leads := .nowhere, words := [] }
  | 0, _, _, words => { leads := .nowhere, words }
  | fuel + 1, direct, path, word :: args =>
    let words := word :: args
    match if direct then none else m.functions.lookup word with
    | some body => { leads := .function body, words }
    | none =>
      let further := if word == "command".toList then afterCommand args false else none
      match further with
      | some (standard, rest) => find m fuel true (if standard then some standardPath else path) rest
      | none =>
        if isBuiltin word then
          { leads := .builtin word, words, isSpecial := !direct && Shell.isSpecial word }
        else { leads := .program, words, path }

/-- Does this command line replace the shell, or change its descriptors for good? -/
def isExec (l : Lookup) : Bool :=
  match l.leads with
  | .builtin name => name == "exec".toList
  | _ => false

/-- Do the arguments of this command line assign? -/
def declares (l : Lookup) : Bool :=
  match l.leads with
  | .builtin name => ["alias", "export", "readonly", "local"].contains (String.ofList name)
  | _ => false

end Lookup

/-- Look up a command line. -/
def Memory.lookUp (m : Memory) (words : List Text) : Lookup :=
  Lookup.find m (words.length + 1) false none words

end Rehearsal.Shell
