import Rehearsal.Shell.Source

/-!
# The grammar of the shell

Words and commands are read by descent from the characters of a source; since a word may hold
commands, the two are read by one set of functions. A source is read one complete line of commands
at a time: the shell runs what it has read before it looks at the next line, so a mistake further on
does not undo what comes before it.

The lines of a document are cut out of the source as soon as its delimiter is read, so that the rest
of the line follows as if the document were not there.

`nextLine` is the entry. The number that the functions take bounds their
nesting; every function reads a character before it comes to itself again.
-/

namespace Rehearsal.Shell

/-! ### Words -/

/-- What surrounds the text that is being read. -/
inductive Surroundings where
  | bare
  /-- The word that ends a document; within quotes or without. -/
  | delimiter (quoted : Bool)
  | doubleQuotes
  /-- Between the braces of a parameter, which may be quoted, and be in a document. -/
  | braces (quoted inDocument : Bool)
  | document
  /-- An arithmetic expression, with so many parentheses open. -/
  | arithmetic (depth : Nat)
  deriving DecidableEq, Repr

namespace Surroundings

def quotes : Surroundings → Bool
  | .bare => false
  | .doubleQuotes | .document | .arithmetic _ => true
  | .delimiter quoted | .braces quoted _ => quoted

/-- Does this character end what is being read? -/
def endsAt : Surroundings → Char → Bool
  | .bare, c | .delimiter false, c =>
    c == ' ' || c == '\t' || c == '\n' || ";&|<>()".toList.contains c
  | .doubleQuotes, c | .delimiter true, c => c == '"'
  | .braces .., c => c == '\x7d'
  | .document, _ | .arithmetic _, _ => false

/-- May a backslash hide this character? -/
def escapes : Surroundings → Char → Bool
  | .bare, _ | .delimiter false, _ | .braces false _, _ => true
  | .doubleQuotes, c | .arithmetic _, c | .delimiter true, c => "$\\\"\x60".toList.contains c
  | .braces true _, c => "$\\\"\x60\x7d".toList.contains c
  | .document, c => "$\\\x60".toList.contains c

/-- Do these quotes quote here? -/
def knowsQuote : Surroundings → Char → Bool
  | .bare, c | .delimiter false, c | .braces false _, c => c == '\'' || c == '"'
  | .braces true _, c => c == '"'
  | _, _ => false

/-- Is text taken as it stands? -/
def isDelimiter : Surroundings → Bool
  | .delimiter _ => true
  | _ => false

/-- Does this character begin something other than literal text? -/
def isSpecial (s : Surroundings) (c : Char) : Bool :=
  s.endsAt c || c == '\\' || s.knowsQuote c || (!s.isDelimiter && (c == '$' || c == '\x60')) ||
    match s with
    | .arithmetic _ => c == '(' || c == ')'
    | _ => false

/-- What surrounds the text between the double quotes that begin here. -/
def insideQuotes : Surroundings → Surroundings
  | .delimiter _ => .delimiter true
  | _ => .doubleQuotes

/-- Is this part of a document? -/
def inDocument : Surroundings → Bool
  | .document | .braces _ true => true
  | _ => false

/-- What is wrong if the text ends here. -/
def fault? : Surroundings → Option Mistake
  | .bare | .document | .delimiter false => none
  | .doubleQuotes | .delimiter true | .braces true false => some .openQuote
  | .braces .. => some .openBrace
  | .arithmetic _ => some .openArithmetic

end Surroundings

/-- The parameters that have no name. -/
def isSpecialParameter (c : Char) : Bool := "@*#?-$!".toList.contains c

/-- The kind of fallback that a character stands for. -/
def fallbackOf? : Char → Option Fallback
  | '-' => some .useInstead
  | '=' => some .assign
  | '?' => some .fail
  | '+' => some .replace
  | _ => none

/-- The lines of a document up to its delimiter, the text after that, and how many lines were read.
The last part says whether the delimiter was there. -/
def splitDocument (stripTabs : Bool) (delimiter : Text) : Nat → Text → Text × Text × Nat × Bool
  | 0, cs => ([], cs, 0, false)
  | _ + 1, [] => ([], [], 0, false)
  | fuel + 1, cs =>
    let cs := if stripTabs then cs.dropWhile (· == '\t') else cs
    let line := cs.takeWhile (· != '\n')
    let rest := (cs.dropWhile (· != '\n'))
    if line = delimiter then ([], rest.drop 1, 1, true)
    else
      let (lines, after, n, found) := splitDocument stripTabs delimiter fuel (rest.drop 1)
      (line ++ rest.take 1 ++ lines, after, n + 1, found)

namespace Parse

/-- The source between two back quotes, in which a backslash hides some characters: a double quote
too, if the back quotes are themselves quoted. -/
def backquoted (quoted : Bool) : Nat → Parse Text
  | 0 => fail .openBackquote
  | fuel + 1 => do
    passContinued
    match ← next with
    | none => fail .openBackquote
    | some '\x60' => return []
    | some '\\' =>
      match ← next with
      | none => fail .openBackquote
      | some c =>
        let hides := c = '$' || c = '\\' || c = '\x60' || (quoted && c = '"')
        let rest ← backquoted quoted fuel
        return if hides then c :: rest else '\\' :: c :: rest
    | some c => return c :: (← backquoted quoted fuel)

/-- The name of a parameter between braces. The mark says that its length is meant. -/
def parameterName : Parse (Option (Bool × Text)) := do
  match ← peekJoined with
  | none => return none
  | some c =>
    if isNameStart c then return some (false, ← takeWhile isNameChar)
    else if c.isDigit then return some (false, ← takeWhile Char.isDigit)
    else if !isSpecialParameter c then return none
    else
      pass
      if c != '#' then return some (false, [c])
      match ← peekJoined with
      | none => return some (false, [c])
      | some d =>
        if isNameStart d then return some (true, ← takeWhile isNameChar)
        else if d.isDigit then return some (true, ← takeWhile Char.isDigit)
        else if isSpecialParameter d && (← get).rest.tail.head? == some '\x7d' then
          pass
          return some (true, [d])
        else return some (false, [c])

/-- A redirection that begins here, about a descriptor or the one that it is about by default. -/
def redirection (descriptor : Option Nat) : Parse Token := do
  match ← next with
  | some '>' =>
    let descriptor := descriptor.getD 1
    if ← passIf '>' then return .redirect descriptor .append
    else if ← passIf '|' then return .redirect descriptor (.write true)
    else if ← passIf '&' then return .redirect descriptor .duplicate
    else return .redirect descriptor (.write false)
  | _ =>
    let descriptor := descriptor.getD 0
    if ← passIf '<' then return .document descriptor (← passIf '-')
    else if ← passIf '&' then return .redirect descriptor .duplicate
    else if ← passIf '>' then return .redirect descriptor .readWrite
    else return .redirect descriptor .read

/-- The operator that begins here, if one does. -/
def operator? (c : Char) : Parse (Option Token) := do
  let double (one two : String) : Parse (Option Token) := do
    pass
    if ← passIf c then return some (.operator two) else return some (.operator one)
  match c with
  | '\n' =>
    pass
    return some .newline
  | '&' => double "&" "&&"
  | '|' => double "|" "||"
  | ';' => double ";" ";;"
  | '(' | ')' =>
    pass
    return some (.operator (String.singleton c))
  | _ => return none

/-- The descriptor that a word before a redirection names, if it does; no word names none. -/
def descriptorOf? : Word → Option (Option Nat)
  | [] => some none
  | [.literal false [c]] => if c.isDigit then some (some (c.toNat - '0'.toNat)) else none
  | _ => none

/-- A command with redirections after it. -/
def withRedirects (line : Nat) (c : Command) (rs : List Redirect) : Command :=
  if rs.isEmpty then c else .redirected line c rs

/-- Which commands a list is made of. -/
inductive ListKind where
  /-- Those on a line. -/
  | line
  /-- Those up to what ends them; there has to be one. -/
  | block
  /-- The same, and there may be none. -/
  | nested
  deriving DecidableEq

/-- What is looked for where a command may begin. -/
def commandChecks : Checks := { newlines := true, keywords := true, aliases := true }

mutual

/-- Read pieces up to what ends them, which is left. -/
def parts : Nat → Surroundings → Parse Word
  | 0, _ => return []
  | fuel + 1, s => do
    match ← peekJoined with
    | none =>
      match s.fault? with
      | some fault => fail fault
      | none => return []
    | some c =>
      if s.endsAt c then return []
      else if c = '\\' then
        pass
        match ← next with
        | none => return .literal true ['\\'] :: (← parts fuel s)
        | some d =>
          let text := if s.escapes d then [d] else ['\\', d]
          return .literal true text :: (← parts fuel s)
      else if s.knowsQuote c then
        pass
        if c = '\'' then
          let text ← takeRun (· != '\'')
          if (← next).isNone then fail .openQuote
          return .literal true text :: (← parts fuel s)
        else
          let inner ← parts fuel s.insideQuotes
          pass
          let more ← parts fuel s
          return match inner with
            | [.parameter true ['@']] => inner ++ more
            | _ => .literal true [] :: inner ++ more
      else if s.isSpecial c then
        pass
        if c = '$' then
          let part ← dollar fuel s
          return part ++ (← parts fuel s)
        else if c = '\x60' then
          let source ← backquoted s.quotes ((← get).rest.length + 1)
          let aliases := (← get).aliases
          match (list fuel .nested true).run { rest := source, aliases } with
          | .ok (cs, _) => return .command s.quotes (.sequence cs) :: (← parts fuel s)
          | .error e => throw { e with atEnd := (← get).sawEnd }
        else match s with
          | .arithmetic depth =>
            if c = '(' then
              return .literal true ['('] :: (← parts fuel (.arithmetic (depth + 1)))
            else if 0 < depth then
              return .literal true [')'] :: (← parts fuel (.arithmetic (depth - 1)))
            else if ← passIf ')' then return []
            else return .literal true [')'] :: (← parts fuel s)
          | s => parts fuel s
      else
        let text ← takeRun (!s.isSpecial ·)
        return .literal s.quotes text :: (← parts fuel s)

/-- Read what follows a dollar sign. -/
def dollar : Nat → Surroundings → Parse Word
  | 0, s => return [.literal s.quotes ['$']]
  | fuel + 1, s => do
    let quoted := s.quotes
    match ← peekJoined with
    | none => return [.literal quoted ['$']]
    | some c =>
      if c = '(' then
        pass
        if ← passIf '(' then return [.arithmetic quoted (← parts fuel (.arithmetic 0))]
        let before ← get
        let cs ← list fuel .nested true
        unless (← readToken fuel).isOperator ")" do unexpected (some (Token.named ")"))
        modify fun s => { s with token := before.token, checks := before.checks }
        return [.command quoted (.sequence cs)]
      else if c = '\x7b' then
        pass
        braces fuel quoted s.inDocument
      else if isNameStart c then return [.parameter quoted (← takeWhile isNameChar)]
      else if c.isDigit || isSpecialParameter c then
        pass
        return [.parameter quoted [c]]
      else return [.literal quoted ['$']]

/-- Read what follows a dollar sign and an opening brace. -/
def braces : Nat → Bool → Bool → Parse Word
  | 0, _, _ => fail .openBrace
  | fuel + 1, quoted, inDocument => do
    let word : Parse Word := do
      let w ← parts fuel (.braces quoted inDocument)
      pass
      return w
    let pattern : Parse Word := do
      let w ← parts fuel (.braces false inDocument)
      pass
      return w
    let malformed : Parse Word := do
      discard word
      return [.malformed]
    match ← parameterName with
    | none => malformed
    | some (isLength, name) =>
      match ← peekJoined with
      | none => malformed
      | some '\x7d' =>
        pass
        return [if isLength then .length quoted name else .parameter quoted name]
      | some c =>
        if isLength then malformed
        else if c = '%' || c = '#' then
          pass
          let longest ← passIf c
          return [.trimmed quoted name (c == '%') longest (← pattern)]
        else
          let colon := c == ':'
          if colon then pass
          match ← peekJoined with
          | none => malformed
          | some d =>
            if colon && d == '\x7d' then
              pass
              return .parameter quoted name :: (← word)
            else match fallbackOf? d with
              | some kind =>
                pass
                return [.fallback quoted name colon kind (← word)]
              | none => malformed

/-- Read a token where none has been put back. -/
def freshToken : Nat → Parse Token
  | 0 => remember .endOfFile
  | fuel + 1 => do
    passBlanks ((← get).rest.length + 1)
    leaveAliases
    match ← peek with
    | none => remember .endOfFile
    | some c =>
      match ← operator? c with
      | some t => remember t
      | none =>
        let s := if (← get).checks.delimiter then Surroundings.delimiter false else .bare
        let w ← parts fuel s
        let next ← peek
        match if next == some '<' || next == some '>' then descriptorOf? w else none with
        | some descriptor => remember (← redirection descriptor)
        | none => remember (.word w)

/-- Read a token, and make of it what is looked for. -/
def readToken : Nat → Parse Token
  | 0 => remember .endOfFile
  | fuel + 1 => do
    let s ← get
    let checks := s.checks
    let t ← if s.again then
        set { s with again := false }
        pure s.token
      else freshToken fuel
    let t ← if checks.newlines then afterNewlines fuel t else pure t
    let s ← get
    set { s with checks := {}, followsAlias := false }
    match t with
    | .word w =>
      match w.plain? with
      | none => return t
      | some name =>
        if checks.keywords && keywords.contains (String.ofList name) then
          remember (.keyword (String.ofList name))
        else if checks.aliases || s.followsAlias then
          match if s.busy.contains name then none else s.aliases.lookup name with
          | none => return t
          | some value =>
            let splice : Splice := ⟨name, s.rest.length, value.getLast?.any fun c =>
              c == ' ' || c == '\t'⟩
            modify fun s => { s with
              rest := value ++ s.rest
              splices := if value.isEmpty then s.splices else splice :: s.splices
              checks }
            readToken fuel
        else return t
    | t => return t

/-- The first token that is no newline. -/
def afterNewlines : Nat → Token → Parse Token
  | 0, t => return t
  | fuel + 1, t => do
    match t with
    | .newline => afterNewlines fuel (← freshToken fuel)
    | t => return t

/-- Read commands one after another. Has none been read yet? -/
def list : Nat → ListKind → Bool → Parse (List Command)
  | 0, _, _ => return []
  | fuel + 1, kind, isFirst => do
    check { commandChecks with newlines := kind != .line }
    let t ← readToken fuel
    match t with
    | .newline => return []
    | .endOfFile =>
      again
      return []
    | t =>
      again
      if (kind == .nested || (kind == .block && !isFirst)) && t.endsList then return []
      let c ← conditional fuel
      let t ← readToken fuel
      match t with
      | .operator "&" => return .background c :: (← list fuel kind false)
      | .operator ";" => return c :: (← list fuel kind false)
      | .newline | .endOfFile =>
        again
        return c :: (← list fuel kind false)
      | _ =>
        if kind == .line then unexpected none
        again
        return [c]

/-- Commands up to a token that ends them. -/
def block : Nat → Parse Command
  | 0 => return .sequence []
  | fuel + 1 => do return .sequence (← list fuel .block true)

/-- Read a keyword, which has to come next. -/
def keyword : Nat → String → Parse Unit
  | 0, _ => return ()
  | fuel + 1, text => do
    unless (← readToken fuel).isKeyword text do unexpected (some (Token.named text))

/-- Pipelines that depend on one another. -/
def conditional : Nat → Parse Command
  | 0 => unexpected none
  | fuel + 1 => do
    let first ← pipeline fuel
    let rest ← conditionalRest fuel
    return if rest.isEmpty then first else .conditional first rest

def conditionalRest : Nat → Parse (List (Bool × Command))
  | 0 => return []
  | fuel + 1 => do
    let t ← readToken fuel
    let both := t.isOperator "&&"
    if both || t.isOperator "||" then
      check commandChecks
      let c ← pipeline fuel
      return (both, c) :: (← conditionalRest fuel)
    else
      again
      return []

def pipeline : Nat → Parse Command
  | 0 => unexpected none
  | fuel + 1 => do
    let negated := (← readToken fuel).isKeyword "!"
    if negated then check { keywords := true, aliases := true } else again
    let first ← command fuel
    let rest ← pipelineRest fuel
    return if rest.isEmpty && !negated then first else .pipeline negated (first :: rest)

def pipelineRest : Nat → Parse (List Command)
  | 0 => return []
  | fuel + 1 => do
    if (← readToken fuel).isOperator "|" then
      check commandChecks
      let c ← command fuel
      return c :: (← pipelineRest fuel)
    else
      again
      return []

/-- One command. -/
def command : Nat → Parse Command
  | 0 => unexpected none
  | fuel + 1 => do
    let t ← readToken fuel
    let line := (← get).line
    let compound : Option (Parse Command) := match t with
      | .keyword "if" => some (ifRest fuel)
      | .keyword "while" => some (loopRest fuel false)
      | .keyword "until" => some (loopRest fuel true)
      | .keyword "for" => some (forRest fuel line)
      | .keyword "case" => some (caseRest fuel line)
      | .keyword "\x7b" => some do
        let c ← block fuel
        keyword fuel "\x7d"
        return c
      | .operator "(" => some do
        let c ← block fuel
        unless (← readToken fuel).isOperator ")" do unexpected (some (Token.named ")"))
        return .subshell line c
      | _ => none
    match compound with
    | some read =>
      let c ← read
      check { keywords := true, aliases := true }
      return withRedirects line c (← redirects fuel)
    | none =>
      match t with
      | .word _ | .redirect .. | .document .. =>
        again
        simple fuel ⟨line, [], [], []⟩
      | _ => unexpected none

/-- Read the redirections that come next. -/
def redirects : Nat → Parse (List Redirect)
  | 0 => return []
  | fuel + 1 => do
    match ← redirectOf fuel (← readToken fuel) with
    | some r => return r :: (← redirects fuel)
    | none =>
      again
      return []

/-- The redirection that a token begins, if it begins one. -/
def redirectOf : Nat → Token → Parse (Option Redirect)
  | 0, _ => return none
  | fuel + 1, t => do
    match t with
    | .redirect descriptor kind =>
      match ← readToken fuel with
      | .word target => return some ⟨descriptor, kind, target⟩
      | _ => unexpected none
    | .document descriptor stripTabs =>
      check { delimiter := true }
      match ← readToken fuel with
      | .word delimiter =>
        let s ← get
        let after := s.rest.dropWhile (· != '\n')
        let (text, rest, lines, found) :=
          splitDocument stripTabs delimiter.unquoted (after.length + 1) (after.drop 1)
        let start := s.line + 1 + s.owed
        unless after.isEmpty do
          set { s with
            rest := s.rest.takeWhile (· != '\n') ++ '\n' :: rest
            owed := s.owed + lines }
        unless found do modify ({ · with sawEnd := true })
        if delimiter.hasQuotes then
          return some ⟨descriptor, .document, WordOf.ofText text⟩
        let aliases := s.aliases
        match (parts fuel .document).run { rest := text, line := start, aliases } with
        | .ok (body, _) => return some ⟨descriptor, .document, body⟩
        | .error e => throw { e with atEnd := (← get).sawEnd }
      | _ => unexpected none
    | _ => return none

/-- Read the rest of a simple command, or a function. Assignments come before all words. -/
def simple : Nat → Simple → Parse Command
  | 0, s => return .simple s
  | fuel + 1, s => do
    check { aliases := s.words.isEmpty }
    let t ← readToken fuel
    match t with
    | .word w =>
      match if s.words.isEmpty then w.assignment? else none with
      | some a => simple fuel { s with assignments := s.assignments ++ [a] }
      | none => simple fuel { s with words := s.words ++ [w] }
    | t =>
      match ← redirectOf fuel t with
      | some r => simple fuel { s with redirects := s.redirects ++ [r] }
      | none =>
        match s.words with
        | [w] =>
          if t.isOperator "(" && s.assignments.isEmpty && s.redirects.isEmpty then
            unless (← readToken fuel).isOperator ")" do unexpected (some (Token.named ")"))
            match WordOf.plain? w with
            | some name =>
              if !isName name || specialCommands.contains (String.ofList name) then
                fail .functionName
              check commandChecks
              return .define name (← command fuel)
            | none => fail .functionName
          else
            again
            return .simple s
        | _ =>
          again
          return .simple s

/-- What follows `if` or `elif`. -/
def ifRest : Nat → Parse Command
  | 0 => unexpected none
  | fuel + 1 => do
    let test ← block fuel
    keyword fuel "then"
    let body ← block fuel
    match ← readToken fuel with
    | .keyword "elif" => return .branch test body (← ifRest fuel)
    | .keyword "else" =>
      let otherwise ← block fuel
      keyword fuel "fi"
      return .branch test body otherwise
    | _ =>
      again
      keyword fuel "fi"
      return .branch test body (.sequence [])

/-- What follows `while` or `until`. -/
def loopRest : Nat → Bool → Parse Command
  | 0, _ => unexpected none
  | fuel + 1, whileFails => do
    let test ← block fuel
    keyword fuel "do"
    let body ← block fuel
    keyword fuel "done"
    return .loop whileFails test body

/-- What follows `for`. -/
def forRest : Nat → Nat → Parse Command
  | 0, _ => unexpected none
  | fuel + 1, line => do
    let name ← match ← readToken fuel with
      | .word w =>
        match w.plain?.filter isName with
        | some name => pure name
        | none => fail .loopVariable
      | _ => fail .loopVariable
    check commandChecks
    let t ← readToken fuel
    let ws ← if t.isKeyword "in" then
        let ws ← wordsUpTo fuel
        match (← get).token with
        | .newline | .operator ";" => pure (some ws)
        | _ => unexpected none
      else
        unless t.isOperator ";" do again
        pure none
    check commandChecks
    keyword fuel "do"
    let body ← block fuel
    keyword fuel "done"
    return .forEach line name ws body

/-- Read the words up to the next token that is none, which is read too. -/
def wordsUpTo : Nat → Parse (List Word)
  | 0 => return []
  | fuel + 1 => do
    match ← readToken fuel with
    | .word w => return w :: (← wordsUpTo fuel)
    | _ => return []

/-- What follows `case`. -/
def caseRest : Nat → Nat → Parse Command
  | 0, _ => unexpected none
  | fuel + 1, line => do
    let w ← match ← readToken fuel with
      | .word w => pure w
      | _ => unexpected (some "word")
    check commandChecks
    keyword fuel "in"
    return .select line w (← arms fuel)

/-- The arms of a `case`, up to and with its end. -/
def arms : Nat → Parse (List (List Word × Command))
  | 0 => return []
  | fuel + 1 => do
    check { newlines := true, keywords := true }
    let t ← readToken fuel
    if t.isKeyword "esac" then return []
    let t ← if t.isOperator "(" then readToken fuel else pure t
    let patterns ← patternsFrom fuel t
    let body := Command.sequence (← list fuel .nested true)
    check { newlines := true, keywords := true }
    let t ← readToken fuel
    if t.isKeyword "esac" then return [(patterns, body)]
    unless t.isOperator ";;" do unexpected (some (Token.named ";;"))
    return (patterns, body) :: (← arms fuel)

/-- The patterns of an arm, of which the first begins with a token that has been read. What is wrong
with a pattern that is no word shows at the token after it. -/
def patternsFrom : Nat → Token → Parse (List Word)
  | 0, _ => return []
  | fuel + 1, t => do
    let pattern := match t with
      | .word w => w
      | .keyword k => [.literal false k.toList]
      | _ => []
    let t ← readToken fuel
    if t.isOperator "|" then
      let t ← readToken fuel
      return pattern :: (← patternsFrom fuel t)
    unless t.isOperator ")" do unexpected (some (Token.named ")"))
    return [pattern]

end

end Parse

/-- More than the nesting of functions that read a source. -/
def Source.bound (s : Source) : Nat :=
  (16 * s.rest.length + 64) * s.aliases.foldl (fun n (_, value) => n + value.length) 1

/-- Read the next line of commands, and say whether the source ends with it; `none` if nothing
is left. -/
def nextLine (s : Source) : Except SyntaxError (Option (Command × Bool) × Source) := do
  let (cs, s) ← (Parse.list s.bound .line true).run { s with again := false, checks := {} }
  let atEnd := match s.token with
    | .endOfFile => true
    | _ => false
  if cs.isEmpty && atEnd then return (none, s)
  else return (some (.sequence cs, atEnd), s)

end Rehearsal.Shell
