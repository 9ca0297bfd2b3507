import Rehearsal.Shell.Command

/-!
# Sources of commands

A source is text that commands are read from, with what the reading of it has to remember: the
line, the token that was read last and may be read again, and the aliases whose texts have been put
into the text. `Parse` reads off the front of a source and fails with a `SyntaxError`.
-/

namespace Rehearsal.Shell

/-- A token. -/
inductive Token where
  | endOfFile
  | newline
  | operator (text : String)
  /-- A redirection whose target is the next word. -/
  | redirect (descriptor : Nat) (kind : RedirectKind)
  /-- A redirection from the lines that follow, up to the next word on a line by itself. -/
  | document (descriptor : Nat) (stripTabs : Bool)
  | keyword (text : String)
  | word (w : Word)
  deriving Inhabited

namespace Token

/-- A token or a keyword as it is named in a message. -/
def named (t : String) : String := "\"" ++ t ++ "\""

/-- What a token is called. -/
def name : Token → String
  | .endOfFile => "end of file"
  | .newline => "newline"
  | .operator t | .keyword t => named t
  | .redirect .. | .document .. => "redirection"
  | .word _ => "word"

def isOperator (text : String) : Token → Bool
  | .operator t => t == text
  | _ => false

def isKeyword (text : String) : Token → Bool
  | .keyword t => t == text
  | _ => false

/-- Does this token end a list of commands inside another command? -/
def endsList : Token → Bool
  | .endOfFile => true
  | .operator t => t == ")" || t == ";;"
  | .keyword t => ["then", "elif", "else", "fi", "do", "done", "esac", "\x7d"].contains t
  | _ => false

end Token

/-- The words that mean something where a command may begin. -/
def keywords : List String :=
  ["!", "case", "do", "done", "elif", "else", "esac", "fi", "for", "if", "in", "then", "until",
    "while", "\x7b", "\x7d"]

/-- What is wrong with a source that is not a sequence of commands. -/
inductive Mistake where
  /-- A token that may not stand where it does; `wanted` is what should. -/
  | unexpected (found : Token) (wanted : Option String)
  | openQuote
  | openBrace
  | openBackquote
  | openArithmetic
  | loopVariable
  | functionName

/-- What is said of a mistake. -/
def Mistake.message : Mistake → String
  | .unexpected found none => found.name ++ " unexpected"
  | .unexpected found (some wanted) => found.name ++ " unexpected (expecting " ++ wanted ++ ")"
  | .openQuote => "Unterminated quoted string"
  | .openBrace => "Missing '\x7d'"
  | .openBackquote => "EOF in backquote substitution"
  | .openArithmetic => "Missing '))'"
  | .loopVariable => "Bad for loop variable"
  | .functionName => "Bad function name"

/-- A source that is not a sequence of commands. -/
structure SyntaxError where
  line : Nat
  mistake : Mistake
  /-- Was the end of the source seen? Then more of it might make it right. -/
  atEnd : Bool := false

/-- What is said of a source, after the name of the shell and the line. -/
def SyntaxError.text (e : SyntaxError) : String := "Syntax error: " ++ e.mistake.message

/-- What is looked for when the next token is read. -/
structure Checks where
  /-- Newlines are passed over. -/
  newlines : Bool := false
  keywords : Bool := false
  aliases : Bool := false
  /-- The token is to end a document: nothing in it is expanded. -/
  delimiter : Bool := false

/-- The text of an alias that has been put into a source. -/
structure Splice where
  name : Text
  /-- How many characters are left of the source after this text. -/
  left : Nat
  /-- Does the text end in a blank? Then the word after it may be an alias too. -/
  endsBlank : Bool

/-- A source that is being read. -/
structure Source where
  rest : Text
  /-- Does the text come from a file? -/
  isFile : Bool := false
  line : Nat := 1
  /-- The lines of documents that have been cut out after the line under way. -/
  owed : Nat := 0
  /-- The token that was read last. -/
  token : Token := .endOfFile
  /-- Is it to be read again? -/
  again : Bool := false
  checks : Checks := {}
  aliases : List (Text × Text) := []
  splices : List Splice := []
  /-- The aliases in whose texts the last word stands. -/
  busy : List Text := []
  /-- Did the last word follow an alias that lets it be one? -/
  followsAlias : Bool := false
  /-- Was the end of the text seen? -/
  sawEnd : Bool := false

/-- Something read off the front of a source. -/
abbrev Parse := StateT Source (Except SyntaxError)

namespace Parse

def fail {α : Type} (m : Mistake) : Parse α := do
  let s ← get
  throw ⟨s.line, m, s.sawEnd⟩

/-- The token that was read last may not stand where it does. -/
def unexpected {α : Type} (wanted : Option String) : Parse α := do
  fail (.unexpected (← get).token wanted)

/-- The next character, left where it is. -/
def peek : Parse (Option Char) := do
  match (← get).rest with
  | c :: _ => return some c
  | [] =>
    modify ({ · with sawEnd := true })
    return none

/-- Pass the next character. -/
def pass : Parse Unit := modify fun s =>
  match s.rest with
  | '\n' :: rest => { s with rest, line := s.line + 1 + s.owed, owed := 0 }
  | _ :: rest => { s with rest }
  | [] => s

/-- Take the next character. -/
def next : Parse (Option Char) := do
  let c ← peek
  pass
  return c

/-- A text without the line ends at its front that a backslash hides, and how many there were. -/
def dropContinued : Text → Nat × Text
  | '\\' :: '\n' :: rest =>
    let (n, rest) := dropContinued rest
    (n + 1, rest)
  | rest => (0, rest)

/-- Pass over line ends that a backslash hides. -/
def passContinued : Parse Unit := modify fun s =>
  match s.rest with
  | '\\' :: '\n' :: _ =>
    let (n, rest) := dropContinued s.rest
    { s with rest, line := s.line + n }
  | _ => s

/-- The next character after hidden line ends, left where it is. -/
def peekJoined : Parse (Option Char) := do
  passContinued
  peek

/-- Pass the next character if it is this one. -/
def passIf (c : Char) : Parse Bool := do
  if (← peekJoined) == some c then
    pass
    return true
  else return false

/-- Take characters of a class, with hidden line ends among them. -/
def takeUpTo (p : Char → Bool) : Nat → Parse Text
  | 0 => return []
  | fuel + 1 => do
    match ← peekJoined with
    | some c =>
      if p c then
        pass
        return c :: (← takeUpTo p fuel)
      else return []
    | none => return []

/-- Take characters of a class, with hidden line ends among them. -/
def takeWhile (p : Char → Bool) : Parse Text := do takeUpTo p ((← get).rest.length + 1)

/-- Take characters of a class, as they stand. -/
def takeRun (p : Char → Bool) : Parse Text := do
  let s ← get
  let run := s.rest.takeWhile p
  let ends := run.count '\n'
  set { s with
    rest := s.rest.dropWhile p
    line := if ends = 0 then s.line else s.line + ends + s.owed
    owed := if ends = 0 then s.owed else 0 }
  return run

/-- Pass over blanks and a comment. -/
def passBlanks : Nat → Parse Unit
  | 0 => return ()
  | fuel + 1 => do
    match ← peekJoined with
    | some ' ' | some '\t' =>
      pass
      passBlanks fuel
    | some '#' =>
      discard (takeRun (· != '\n'))
    | _ => return ()

/-- Forget the aliases whose texts are over. -/
def leaveAliases : Parse Unit := modify fun s =>
  if s.splices.isEmpty then { s with busy := [] }
  else
    let left := s.rest.length
    let (going, ended) := s.splices.partition fun a => a.left < left
    { s with
      splices := going
      busy := going.map (·.name)
      followsAlias := s.followsAlias || ended.any (·.endsBlank) }

/-- Let the last token be read again. -/
def again : Parse Unit := modify ({ · with again := true })

/-- Say what is looked for when the next token is read. -/
def check (checks : Checks) : Parse Unit := modify ({ · with checks })

/-- Remember a token as the last one. -/
def remember (t : Token) : Parse Token := do
  modify ({ · with token := t })
  return t

end Parse

end Rehearsal.Shell
