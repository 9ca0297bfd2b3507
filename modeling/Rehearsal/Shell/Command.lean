import Rehearsal.Shell.Word

/-!
# Commands of the shell

The syntax tree of the shell's language. Commands keep the line that they stand on, since messages
name it. Words may hold commands, whose output stands in their place.
-/

namespace Rehearsal.Shell

/-- The commands of the shell's own that are more than commands: a mistake in one ends the shell, and
no function may have its name. -/
def specialCommands : List String :=
  [".", ":", "break", "continue", "eval", "exec", "exit", "export", "local", "readonly", "return",
    "set", "shift", "times", "trap", "unset"]

/-- What a redirection does with a file descriptor. -/
inductive RedirectKind where
  | read
  /-- Writing to a file that is there may be forbidden; `force` allows it. -/
  | write (force : Bool)
  | append
  | readWrite
  /-- The target is a descriptor to be copied, or a dash that closes. -/
  | duplicate
  /-- The target is the text to be read. -/
  | document
  deriving DecidableEq, Repr

/-- A redirection of a file descriptor. -/
structure RedirectOf (C : Type) where
  descriptor : Nat
  kind : RedirectKind
  target : List (Part C)

/-- A command that is words. -/
structure SimpleOf (C : Type) where
  line : Nat
  assignments : List (Text × List (Part C))
  words : List (List (Part C))
  redirects : List (RedirectOf C)

/-- A command. -/
inductive Command where
  | simple (s : SimpleOf Command)
  /-- One after another. -/
  | sequence (cs : List Command)
  /-- The next one runs if the one before did, or did not, succeed. -/
  | conditional (first : Command) (rest : List (Bool × Command))
  | pipeline (negated : Bool) (cs : List Command)
  | background (c : Command)
  | subshell (line : Nat) (c : Command)
  | branch (test body otherwise : Command)
  /-- The body runs as long as the test succeeds, or as long as it fails. -/
  | loop (whileFails : Bool) (test body : Command)
  /-- The body runs for each field of the words, or for each positional parameter. -/
  | forEach (line : Nat) (name : Text) (words : Option (List (List (Part Command))))
    (body : Command)
  | select (line : Nat) (word : List (Part Command))
    (arms : List (List (List (Part Command)) × Command))
  | define (name : Text) (body : Command)
  | redirected (line : Nat) (c : Command) (redirects : List (RedirectOf Command))

instance : Inhabited Command := ⟨.sequence []⟩

/-- A word. -/
abbrev Word := WordOf Command

/-- A redirection. -/
abbrev Redirect := RedirectOf Command

/-- A simple command. -/
abbrev Simple := SimpleOf Command

end Rehearsal.Shell
