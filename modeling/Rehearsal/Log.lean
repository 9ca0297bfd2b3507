import Rehearsal.Regex.Meaning
import Rehearsal.Style

/-!
# The log

A record has a level, a target and a message. A filter is a list of directives, each of which
lets records up to a level through, for all targets or for those that begin with a name; the
directive with the longest fitting name decides. A filter is written as directives between commas,
and may end in a slash and a regular expression that messages must match.
-/

namespace Rehearsal.Log

/-- How important a record is, the most important first; `off` lets nothing through. -/
inductive Level where
  | off
  | error
  | warn
  | info
  | debug
  | trace
  deriving DecidableEq, Repr, Inhabited

namespace Level

def all : List Level := [.off, .error, .warn, .info, .debug, .trace]

def name : Level → String
  | .off => "OFF"
  | .error => "ERROR"
  | .warn => "WARN"
  | .info => "INFO"
  | .debug => "DEBUG"
  | .trace => "TRACE"

def rank : Level → Nat
  | .off => 0
  | .error => 1
  | .warn => 2
  | .info => 3
  | .debug => 4
  | .trace => 5

/-- Read a level, in any mixture of cases. -/
def ofText? (s : String) : Option Level := all.find? (·.name == s.toUpper)

/-- The color of a level. -/
def color : Level → Color
  | .off | .error => .brightRed
  | .warn => .brightYellow
  | .info => .cyan
  | .debug => .magenta
  | .trace => .blue

end Level

/-- A record of the log. -/
structure Record where
  level : Level
  target : String
  message : String
  deriving Repr

/-- Lets records up to a level through, for targets that begin with a name. -/
structure Directive where
  name : Option String
  level : Level
  deriving DecidableEq, Repr

/-- What is let through. -/
structure Filter where
  directives : List Directive
  /-- What messages must match. -/
  pattern : Option Regex.Matcher := none
  deriving Repr

namespace Filter

/-- Put a directive in, over one with the same name. -/
def put (ds : List Directive) (d : Directive) : List Directive :=
  if ds.any (·.name == d.name) then ds.map fun e => if e.name == d.name then d else e
  else ds ++ [d]

/-- What a piece between commas says: nothing, a directive, or something that is not understood
and is reported. -/
inductive Piece where
  | empty
  | directive (d : Directive)
  | unknown (text : String)

/-- A text without the blanks around it. -/
def trim (text : String) : String :=
  String.ofList ((text.toList.dropWhile isBlank).reverse.dropWhile isBlank).reverse

/-- Read a piece between commas. A name alone lets everything through. -/
def readPiece (text : String) : Piece :=
  let text := trim text
  if text.isEmpty then .empty
  else match text.splitOn "=" with
    | [one] =>
      match Level.ofText? one with
      | some level => .directive ⟨none, level⟩
      | none => .directive ⟨some one, .trace⟩
    | [name, level] =>
      let level := trim level
      if level.isEmpty then .directive ⟨some name, .trace⟩
      else match Level.ofText? level with
        | some level => .directive ⟨some name, level⟩
        | none => .unknown level
    | _ => .unknown text

/-- What is said of a piece, or a whole filter, that is not understood. -/
def warning (text reason : String) : String :=
  "warning: invalid logging spec '" ++ text ++ "', ignoring it" ++ reason ++ "\n"

/-- Read the expression after the slash, with the warning that this gives. -/
def readPattern (text : String) : Option Regex.Matcher × String :=
  match Regex.Matcher.read text with
  | .ok pattern => (some pattern, "")
  | .error refusal =>
    (none, "warning: invalid regex filter - " ++ refusal.message text ++ "\n")

/-- Read a filter over a default level, with the warnings that this gives. -/
def read (level : Level) (text : Option String) : Filter × String :=
  let base : List Directive := [⟨none, level⟩]
  match (text.map (·.splitOn "/")).getD [] with
  | [] => (⟨base, none⟩, "")
  | spec :: rest =>
    let take (acc : List Directive × String) (piece : String) : List Directive × String :=
      match readPiece piece with
      | .empty => acc
      | .directive d => (put acc.1 d, acc.2)
      | .unknown text => (acc.1, acc.2 ++ warning text "")
    let (directives, warnings) := (spec.splitOn ",").foldl take (base, "")
    match rest with
    | [] => (⟨directives, none⟩, warnings)
    | [pattern] =>
      let (pattern, complaint) := readPattern pattern
      (⟨directives, pattern⟩, warnings ++ complaint)
    | _ => (⟨base, none⟩, warning (text.getD "") " (too many '/'s)")

/-- How long the name of a directive is. -/
def nameLength (d : Directive) : Nat := (d.name.map (·.utf8ByteSize)).getD 0

/-- The level up to which records of a target are let through. -/
def levelFor (f : Filter) (target : String) : Level :=
  let fits (d : Directive) : Bool := d.name.all fun n => n.toList.isPrefixOf target.toList
  let better (best : Option Directive) (d : Directive) : Option Directive :=
    if !fits d then best
    else match best with
      | some b => if nameLength b ≤ nameLength d then some d else some b
      | none => some d
  ((f.directives.foldl better none).map (·.level)).getD .off

/-- Is a record let through? -/
def lets (f : Filter) (r : Record) : Bool :=
  r.level != .off && r.level.rank ≤ (f.levelFor r.target).rank &&
    f.pattern.all (·.occursIn r.message)

end Filter

/-- A record as a line. -/
def line (t : Terminal) (r : Record) : String :=
  t.paint { bold := true, foreground := some r.level.color } ("[" ++ r.level.name ++ "]") ++ " " ++
    r.message ++ "\n"

/-- What a log writes, under a default level and a filter. -/
def write (t : Terminal) (level : Level) (filter : Option String) (records : List Record) :
    String :=
  let (f, warnings) := Filter.read level filter
  warnings ++ String.join ((records.filter f.lets).map (line t))

end Rehearsal.Log
