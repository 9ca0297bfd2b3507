import Rehearsal.Shell.Arithmetic
import Rehearsal.Shell.FileNames

/-!
# Expansion

A word is expanded into items: characters that know whether they are quoted and whether fields may
be split at them. Items are then split into fields, and fields into the names of files; or they are
taken as one text where no splitting is done.

The output of a command in a word comes from a process of its own, which takes time. So an expansion
is given the outputs that are known so far, and stops at the first command whose output it would
need. Once that is there, the word is expanded again from its beginning; since an expansion depends
on nothing but what it is given, it comes to the same place.
-/

namespace Rehearsal.Shell

/-- What a word is expanded into. -/
inductive Item where
  /-- A character; `splits` if a field may end at it. -/
  | char (c : Char) (quoted splits : Bool)
  /-- A field is here even if it stays empty. -/
  | mark
  /-- A field ends here whatever comes next. -/
  | boundary

namespace Item

/-- A text as items. -/
def ofText (quoted splits : Bool) (t : Text) : List Item := t.map (.char · quoted splits)

/-- The value of an expansion as items. -/
def ofValue (quoted : Bool) (t : Text) : List Item := ofText quoted (!quoted) t

/-- The characters of some items. -/
def text (items : List Item) : Text := items.filterMap fun
  | .char c _ _ => some c
  | .mark | .boundary => none

/-- The glyphs of some items. -/
def glyphs (items : List Item) : List Glyph := items.filterMap fun
  | .char c quoted _ => some (c, quoted)
  | .mark | .boundary => none

/-- The items of a fallback that is used: fields may be split at every unquoted character. -/
def inFallback (quoted : Bool) (items : List Item) : List Item :=
  if quoted then items
  else items.map fun
    | .char c quoted splits => .char c quoted (splits || !quoted)
    | other => other

/-- A field that is being put together: what is done, what is under way, and whether a blank has
just ended a field. -/
structure Fields where
  done : List (List Glyph) := []
  current : Option (List Glyph) := none
  afterBlank : Bool := false

namespace Fields

/-- End the field under way, if there is one. -/
def finish (f : Fields) : Fields :=
  match f.current with
  | some glyphs => { done := glyphs.reverse :: f.done, current := none, afterBlank := true }
  | none => f

/-- Take one more item, given the characters at which fields are split. -/
def take (separators : Text) (f : Fields) : Item → Fields
  | .mark => { f with current := some (f.current.getD []), afterBlank := false }
  | .boundary => { f.finish with afterBlank := false }
  | .char c quoted splits =>
    if splits && separators.contains c then
      if c.isWhitespace then f.finish
      else if f.afterBlank && f.current.isNone then { f with afterBlank := false }
      else { done := ((f.current.getD []).reverse) :: f.done, current := none, afterBlank := false }
    else { f with current := some ((c, quoted) :: f.current.getD []), afterBlank := false }

end Fields

/-- The fields that items make. -/
def fields (separators : Text) (items : List Item) : List (List Glyph) :=
  (items.foldl (Fields.take separators) {}).finish.done.reverse

end Item

/-! ### Expanding -/

/-- Why an expansion stops. -/
inductive Interruption where
  | failed (message : String)
  /-- The output of a command is needed. This is what the shell remembers when it begins. -/
  | needs (c : Command) (m : Memory)

/-- An expansion under way. -/
structure Expanding where
  memory : Memory
  /-- The known outputs of commands, in the order in which they are needed. -/
  outputs : List Text := []

/-- Expansion reads and may change what the shell remembers. -/
abbrev Expand := StateT Expanding (Except Interruption)

/-- How a word is expanded. -/
structure Manner where
  /-- Are fields split? Then all arguments may be fields of their own. -/
  splits : Bool := false
  /-- The characters after which a tilde may stand for a home directory; it always may where a word
  begins. -/
  tildesAfter : List Char := []

/-- The homes of the users that every system has. -/
def systemHomes : List (String × String) := [
  ("root", "/root"), ("daemon", "/usr/sbin"), ("bin", "/bin"), ("sys", "/dev"), ("sync", "/bin"),
  ("games", "/usr/games"), ("man", "/var/cache/man"), ("lp", "/var/spool/lpd"),
  ("mail", "/var/mail"), ("news", "/var/spool/news"), ("uucp", "/var/spool/uucp"),
  ("proxy", "/bin"), ("www-data", "/var/www"), ("backup", "/var/backups"), ("list", "/var/list"),
  ("irc", "/run/ircd"), ("nobody", "/nonexistent")]

namespace Memory

/-- The home directory of a user, or that of the shell's own user if none is named. -/
def home? (m : Memory) (user : Text) : Option Text :=
  if user.isEmpty then m.valueOf? "HOME".toList
  else (systemHomes.lookup (String.ofList user)).map String.toList

/-- What stands between arguments that are one text: the first separator. -/
def between (m : Memory) : Text := m.separators.take 1

end Memory

namespace Expand

def fail {α : Type} (message : String) : Expand α := throw (.failed message)

def memory : Expand Memory := return (← get).memory

/-- The output of a command, without which there is no going on. -/
def outputOf (c : Command) : Expand Text := do
  let s ← get
  match s.outputs with
  | t :: outputs =>
    set { s with outputs }
    return t
  | [] => throw (.needs c s.memory)

/-- Give a variable a value. -/
def assign (name value : Text) : Expand Unit := do
  if !isName name then fail (String.ofList name ++ ": bad variable name")
  match (← memory).assign? name value with
  | .ok memory => modify ({ · with memory })
  | .error message => fail message

/-- A parameter that has no value may have to have one. -/
def refuseUnset (name : Text) : Expand Unit := do
  if (← memory).isOn .refusesUnset then fail (String.ofList name ++ ": parameter not set")

/-- All arguments as items: each is a field of its own, or they are one text. -/
def arguments (how : Manner) (quoted : Bool) (name : Text) : Expand (List Item) := do
  let m ← memory
  if how.splits && (!quoted || name == ['@']) then
    let lead := if quoted then [Item.mark] else []
    return (m.arguments.map fun t => lead ++ Item.ofValue quoted t).intersperse [.boundary]
      |>.flatten
  else return Item.ofValue quoted (m.joined m.between)

/-- A parameter's value as items. -/
def parameter (how : Manner) (quoted : Bool) (name : Text) : Expand (List Item) := do
  if Memory.isAll name then arguments how quoted name
  else match (← memory).parameter? name with
    | some t => return Item.ofValue quoted t
    | none =>
      refuseUnset name
      return []

/-- The text of a parameter where it is one text. -/
def textOf? (name : Text) : Expand (Option Text) := do
  let m ← memory
  if Memory.isAll name then return some (m.joined [' ']) else return m.parameter? name

/-- The items of literal text. A tilde at which a home directory may be named stands for it; its
user's name goes on to a slash, to a character after which tildes are looked for, or to the end of
the word, which `isLast` says is that of the text. -/
def literal (m : Memory) (how : Manner) (isLast : Bool) : Nat → Bool → Text → List Item
  | 0, _, _ => []
  | _ + 1, _, [] => []
  | fuel + 1, begins, c :: cs =>
    let user := cs.takeWhile fun d => d != '/' && !how.tildesAfter.contains d
    let rest := cs.drop user.length
    match if begins && c = '~' && (isLast || !rest.isEmpty) then m.home? user else none with
    | some home => Item.ofText true false home ++ literal m how isLast fuel false rest
    | none => .char c false false :: literal m how isLast fuel (how.tildesAfter.contains c) cs

mutual

/-- Expand one piece of a word. It may begin the word, and end it. -/
def part (how : Manner) (isFirst isLast : Bool) : Part Command → Expand (List Item)
  | .literal quoted t => do
    if quoted then return .mark :: Item.ofText true false t
    else return literal (← memory) how isLast (t.length + 1) isFirst t
  | .command quoted c => return Item.ofValue quoted (← outputOf c)
  | .malformed => fail "Bad substitution"
  | .parameter quoted name => parameter how quoted name
  | .length quoted name => do
    match ← textOf? name with
    | some t => return Item.ofValue quoted (.ofNat t.length)
    | none =>
      refuseUnset name
      return Item.ofValue quoted (.ofNat 0)
  | .fallback quoted name colon kind word => do
    let old ← textOf? name
    let isMissing := match old with
      | none => true
      | some t => colon && t.isEmpty
    match kind with
    | .replace =>
      if isMissing then return [] else return Item.inFallback quoted (← parts how true word)
    | .useInstead =>
      if isMissing then return Item.inFallback quoted (← parts how true word)
      else parameter how quoted name
    | .assign =>
      if isMissing then
        let t := Item.text (← parts { how with splits := false } true word)
        assign name t
        return Item.ofValue quoted t
      else parameter how quoted name
    | .fail =>
      if isMissing then
        let t := Item.text (← parts { how with splits := false } true word)
        let what := if !word.isEmpty then String.ofList t
          else if colon then "parameter not set or null"
          else "parameter not set"
        fail (String.ofList name ++ ": " ++ what)
      else parameter how quoted name
  | .trimmed quoted name fromEnd longest pattern => do
    let p := Pattern.read (Item.glyphs (← parts { how with splits := false } true pattern))
    match ← textOf? name with
    | none =>
      refuseUnset name
      return []
    | some t =>
      return Item.ofValue quoted (if fromEnd then p.dropEnd longest t else p.dropStart longest t)
  | .arithmetic quoted body => do
    let source := Item.text (← parts {} false body)
    match Arithmetic.evaluate (← memory) source with
    | .error message => fail message
    | .ok (n, memory) =>
      modify ({ · with memory })
      return Item.ofValue quoted (.ofInt n)

/-- Expand pieces in order. -/
def parts (how : Manner) (isFirst : Bool) : List (Part Command) → Expand (List Item)
  | [] => return []
  | p :: ps => do
    let items ← part how isFirst ps.isEmpty p
    return items ++ (← parts how false ps)

end

/-- Expand a word where no fields are split. -/
def text (w : Word) : Expand Text := Item.text <$> parts {} true w

/-- Expand the value of an assignment. -/
def value (w : Word) : Expand Text := Item.text <$> parts { tildesAfter := [':'] } true w

/-- Expand a word that is a pattern. -/
def pattern (w : Word) : Expand Pattern :=
  (fun items => Pattern.read (Item.glyphs items)) <$> parts {} true w

/-- Expand a word into fields, and those into the names of files. -/
def fields (files : FileTree) (cwd : Place) (w : Word) : Expand (List Text) := do
  let items ← parts { splits := true } true w
  let m ← memory
  let found := Item.fields m.separators items
  return if m.isOn .keepsPatterns then found.map textOf else found.flatMap (fileNames files cwd)

/-- Expand an argument that may assign, which is then one field. -/
def declaration (files : FileTree) (cwd : Place) (w : Word) : Expand (List Text) := do
  match WordOf.assignment? w with
  | some (name, v) => return [name ++ '=' :: (← value v)]
  | none => fields files cwd w

end Expand

end Rehearsal.Shell
