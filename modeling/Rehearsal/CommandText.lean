import Rehearsal.Text.Quoted

/-!
# A command as text

The words of a command are shown with a space between them. A word that is empty or has a blank in
it is shown in quotes.
-/

namespace Rehearsal

/-- A word of a command, in quotes where it needs them. -/
def showWord (word : String) : String :=
  if word.isEmpty || word.any isBlank then quoteString word else word

/-- A command as its user would type it. -/
def commandLine (command : List String) : String := " ".intercalate (command.map showWord)

end Rehearsal
