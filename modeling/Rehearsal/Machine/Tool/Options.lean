import Rehearsal.Shell.Word

/-!
# The command line of a program

A program's options are letters after a dash, and names after two. Several letters may stand in one
word, and a value may stand in the word of its letter or be the next one. Names may be shortened as
long as they mean one option. Options may stand among the operands; two dashes alone end them.
-/

namespace Rehearsal.Machine

open Shell (Text)

/-- An option that a program knows: its letter, the name that means the same, and whether it takes a
value. -/
structure OptionForm where
  letter : Char
  name : String := ""
  takesValue : Bool := false
  deriving Repr

/-- Options that take no value and have no names. -/
def OptionForm.plain (letters : String) : List OptionForm := letters.toList.map ({ letter := · })

/-- What a command line asks for. -/
structure Request where
  /-- The options in their order, with their values. -/
  options : List (Char × Text) := []
  operands : List Text := []
  deriving Repr

namespace Request

/-- Is an option given? -/
def has (r : Request) (letter : Char) : Bool := r.options.any (·.1 == letter)

/-- The last value of an option. -/
def value? (r : Request) (letter : Char) : Option Text := r.options.reverse.lookup letter

def addOption (r : Request) (letter : Char) (value : Text) : Request :=
  { r with options := (letter, value) :: r.options }

def addOperand (r : Request) (w : Text) : Request := { r with operands := w :: r.operands }

/-- Read letters that stand in one word. A value is the rest of the word or the next one; the result
says whether the next one was taken. -/
def readLetters (forms : List OptionForm) (next : Option Text) :
    Text → Except String (Request × Bool)
  | [] => .ok ({}, false)
  | c :: cs =>
    match forms.find? (·.letter == c) with
    | none => .error ("invalid option -- '" ++ c.toString ++ "'")
    | some form =>
      if form.takesValue then
        match cs, next with
        | [], none => .error ("option requires an argument -- '" ++ c.toString ++ "'")
        | [], some value => .ok (({} : Request).addOption c value, true)
        | value, _ => .ok (({} : Request).addOption c value, false)
      else do
        let (r, taken) ← readLetters forms next cs
        return (r.addOption c [], taken)

/-- The option that a name means. -/
def named (forms : List OptionForm) (name : String) : Except String OptionForm :=
  let fits := forms.filter fun f =>
    !f.name.isEmpty && name.toList.isPrefixOf f.name.toList
  match forms.find? (fun f => !f.name.isEmpty && f.name == name), fits with
  | some form, _ | none, [form] => .ok form
  | none, [] => .error ("unrecognized option '--" ++ name ++ "'")
  | none, fits =>
    .error ("option '--" ++ name ++ "' is ambiguous; possibilities:" ++
      String.join (fits.map fun f => " '--" ++ f.name ++ "'"))

/-- Read an option that is given by its name. -/
def readName (forms : List OptionForm) (next : Option Text) (w : Text) :
    Except String (Request × Bool) := do
  let name := String.ofList (w.takeWhile (· != '='))
  let form ← named forms name
  match w.dropWhile (· != '='), form.takesValue with
  | [], false => return (({} : Request).addOption form.letter [], false)
  | _ :: value, true => return (({} : Request).addOption form.letter value, false)
  | _ :: _, false => throw ("option '--" ++ form.name ++ "' doesn't allow an argument")
  | [], true =>
    match next with
    | some value => return (({} : Request).addOption form.letter value, true)
    | none => throw ("option '--" ++ form.name ++ "' requires an argument")

def join (a b : Request) : Request :=
  { options := a.options ++ b.options, operands := a.operands ++ b.operands }

/-- Read a command line; what is wrong with it is a message. -/
def read (forms : List OptionForm) : List Text → Except String Request
  | [] => .ok {}
  | ['-', '-'] :: ws => .ok { operands := ws }
  | ('-' :: '-' :: name) :: ws => do
    let (r, taken) ← readName forms ws.head? name
    match taken, ws with
    | true, _ :: ws => return r.join (← read forms ws)
    | _, ws => return r.join (← read forms ws)
  | ('-' :: c :: cs) :: ws => do
    let (r, taken) ← readLetters forms ws.head? (c :: cs)
    match taken, ws with
    | true, _ :: ws => return r.join (← read forms ws)
    | _, ws => return r.join (← read forms ws)
  | w :: ws => return (← read forms ws).addOperand w

end Request

end Rehearsal.Machine
