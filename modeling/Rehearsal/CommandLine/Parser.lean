import Rehearsal.CommandLine.Options

/-!
# Reading a command line

A command line is options, then a subcommand, then its options and arguments. The program under
test follows two dashes, and everything after them belongs to it, whatever it looks like.

An option's value is the rest of its word or the next word. A value and an argument are read only
when the next option or argument begins, or at the end, so of two things that are wrong with a
command line an unknown option is reported before the unreadable value in front of it.
-/

namespace Rehearsal.CommandLine

/-- What may stand on a command line, or after a subcommand. -/
structure Grammar where
  options : List Opt
  /-- How many arguments may stand before the two dashes. -/
  arguments : Nat
  /-- May a command follow the two dashes? -/
  takesCommand : Bool
  /-- May the version be asked for? -/
  hasVersion : Bool := false
  /-- May a subcommand follow? -/
  hasSubcommand : Bool := false

/-- A subcommand. -/
inductive Subcommand where
  | init
  | run
  | step
  deriving DecidableEq, Repr

namespace Subcommand

/-- A subcommand by its name or short form. -/
def ofName? (s : String) : Option Subcommand :=
  if s = "init" then some .init
  else if s = "run" || s = "r" then some .run
  else if s = "step" || s = "s" then some .step
  else none

/-- Is this word a subcommand, or the word that asks for help on one? -/
def isNamed (s : String) : Bool := s = "help" || (ofName? s).isSome

def grammar : Subcommand → Grammar
  | .init => { options := [.logLevel], arguments := 1, takesCommand := false }
  | .run => {
      options := [.config, .stepDelay, .warmupDelay, .timeLimit, .suffix, .inputDir, .outputDir,
        .unterminatedOutput, .reportJson, .logLevel]
      arguments := 0
      takesCommand := true }
  | .step => {
      options := [.stepDelay, .warmupDelay, .postCrashLines, .wrongLines, .overflowMargin,
        .timeLimit, .logLevel]
      arguments := 2
      takesCommand := true }

end Subcommand

/-- What may stand before the subcommand. -/
def Grammar.top : Grammar :=
  { options := [.logLevel], arguments := 0, takesCommand := false, hasVersion := true,
    hasSubcommand := true }

/-- What has begun on a command line and is not read yet. -/
inductive Pending where
  /-- An option, with its value once it is there. -/
  | option (opt : Opt) (value : Option String)
  | argument (word : String)

/-- What has been read of a command line. -/
structure Reading where
  options : Options := {}
  pending : Option Pending := none
  arguments : List Path := []
  command : List String := []
  /-- Were the two dashes seen? -/
  trailing : Bool := false

namespace Reading

/-- Is the next word the value of an option? -/
def awaitsValue (r : Reading) : Bool :=
  match r.pending with
  | some (.option _ none) => true
  | _ => false

/-- How many arguments have begun. -/
def begun (r : Reading) : Nat :=
  match r.pending with
  | some (.argument _) => r.arguments.length + 1
  | _ => r.arguments.length

/-- Read what has begun. -/
def settle (r : Reading) : Except UsageError Reading :=
  match r.pending with
  | none => .ok r
  | some (.option _ none) => .error .invalidValue
  | some (.option opt (some s)) => do
    return { r with options := ← r.options.take opt s, pending := none }
  | some (.argument word) => do
    return { r with arguments := r.arguments ++ [← readPath word], pending := none }

/-- Begin an option. A value in the same word is read at once. -/
def beginOption (r : Reading) (opt : Opt) (attached : Option String) :
    Except UsageError Reading := do
  let r ← r.settle
  match attached with
  | some s => return { r with options := ← r.options.take opt s }
  | none => return { r with pending := some (.option opt none) }

/-- Something that is asked for instead of a subcommand. -/
def ask (r : Reading) (what : UsageError) : Except UsageError Reading := do
  discard r.settle
  .error what

/-- A word that begins with two dashes. -/
def takeLong (g : Grammar) (r : Reading) (body : List Char) : Except UsageError Reading :=
  let name := String.ofList (body.takeWhile (· != '='))
  let attached := match body.dropWhile (· != '=') with
    | _ :: value => some (String.ofList value)
    | [] => none
  match g.options.find? (·.long == name) with
  | some opt => r.beginOption opt attached
  | none =>
    let asked :=
      if name = "help" then some UsageError.help
      else if name = "version" && g.hasVersion then some .version
      else none
    match asked, attached with
    | some what, none => r.ask what
    | some _, some _ => .error .tooManyValues
    | none, _ => .error .unknownArgument

/-- A word that begins with one dash. -/
def takeShort (g : Grammar) (r : Reading) (body : List Char) : Except UsageError Reading :=
  match body with
  | [] => .ok r
  | c :: rest =>
    match g.options.find? (·.short? == some c) with
    | some opt =>
      let attached := match rest with
        | [] => none
        | '=' :: value => some (String.ofList value)
        | value => some (String.ofList value)
      r.beginOption opt attached
    | none =>
      if c = 'h' then r.ask .help
      else if c = 'V' && g.hasVersion then r.ask .version
      else .error .unknownArgument

/-- A word that stands for itself. -/
def takeArgument (g : Grammar) (r : Reading) (word : String) : Except UsageError Reading :=
  if r.trailing && g.takesCommand then do
    let r ← r.settle
    return { r with command := r.command ++ [word] }
  else if r.begun < g.arguments then do
    let r ← r.settle
    return { r with pending := some (.argument word) }
  else if g.hasSubcommand && !(r.trailing && Subcommand.isNamed word) then
    .error .invalidSubcommand
  else .error .unknownArgument

/-- One word that is not a subcommand. -/
def takeWord (g : Grammar) (r : Reading) (word : String) : Except UsageError Reading :=
  if r.trailing then r.takeArgument g word
  else match word.toList with
    | ['-', '-'] => .ok { r with trailing := true }
    | '-' :: '-' :: body => r.takeLong g body
    | '-' :: c :: rest => r.takeShort g (c :: rest)
    | _ =>
      match r.pending with
      | some (.option opt none) => .ok { r with pending := some (.option opt (some word)) }
      | _ => r.takeArgument g word

end Reading

/-- Read the words after a subcommand. -/
def readWords (g : Grammar) (r : Reading) : List String → Except UsageError Reading
  | [] => r.settle
  | word :: words => do readWords g (← r.takeWord g word) words

/-- Is help known for these words? -/
def helpFor : List String → UsageError
  | [] => .help
  | [word] => if Subcommand.isNamed word then .help else .invalidSubcommand
  | _ => .invalidSubcommand

/-- A command line that has been understood. -/
inductive Invocation where
  | init (dir : Path)
  | run (options : Options) (command : List String)
  | step (input expected : Path) (options : Options) (command : List String)
  deriving DecidableEq, Repr

/-- What a subcommand asks for, once everything after it was read. -/
def Invocation.ofReading (s : Subcommand) (r : Reading) : Except UsageError Invocation :=
  match s with
  | .init => .ok (.init (r.arguments.head?.getD (.ofString "./")))
  | .run => .ok (.run r.options r.command)
  | .step =>
    match r.arguments, r.command with
    | [_, _], [] => .error .missingArgument
    | [input, expected], command => .ok (.step input expected r.options command)
    | _, _ => .error .missingArgument

/-- What is asked for and how much is logged. -/
structure Request where
  logLevel : Log.Level
  invocation : Invocation
  deriving DecidableEq, Repr

/-- How much is logged if nothing is said. -/
def defaultLevel : Log.Level := .warn

/-- Read the words from the subcommand on. The later of two log levels counts. -/
def readSubcommand (top : Reading) (s : Subcommand) (words : List String) :
    Except UsageError Request := do
  let r ← readWords s.grammar {} words
  let invocation ← Invocation.ofReading s r
  let top ← top.settle
  let level := (r.options.logLevel <|> top.options.logLevel).getD defaultLevel
  return ⟨level, invocation⟩

/-- Read the words before the subcommand. -/
def readTop (r : Reading) : List String → Except UsageError Request
  | [] => do
    let given := r.options.logLevel.isSome || r.pending.isSome
    discard r.settle
    .error (if given then .missingSubcommand else .helpForNothing)
  | word :: words =>
    if r.trailing || r.awaitsValue then do readTop (← r.takeWord .top word) words
    else if word = "help" then .error (helpFor words)
    else match Subcommand.ofName? word with
      | some s => readSubcommand r s words
      | none => do readTop (← r.takeWord .top word) words

/-- Read a command line, without the name of the program. -/
def parse (words : List String) : Except UsageError Request := readTop {} words

end Rehearsal.CommandLine
