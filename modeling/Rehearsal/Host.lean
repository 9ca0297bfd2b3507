import Rehearsal.Machine.Conversation

/-!
# The host

The files, the current directory and the environment in which tests are run. A host is a stage: test
cases are read from its files, and programs are run on a machine that has them. What a program does
to the files stays.
-/

namespace Rehearsal

/-- Where tests are run. -/
structure Host where
  files : FileTree
  directory : Place
  environment : List (String × String) := []

namespace Host

open Machine (Conversation)

/-- The current directory as a path. -/
def directoryPath (h : Host) : Path :=
  ⟨if h.directory.isEmpty then [Path.slash] else h.directory.flatMap (Path.slash :: ·)⟩

/-- The variables that programs always get. -/
def standardEnvironment : List (Shell.Text × Shell.Text) := [
  ("HOME".toList, "/root".toList), ("LC_ALL".toList, ['C']),
  ("PATH".toList, Shell.standardPath)]

/-- The environment in the words of the shell. -/
def shellEnvironment (h : Host) : List (Shell.Text × Shell.Text) :=
  h.environment.foldl (fun vs (name, value) =>
    Shell.Memory.put vs (.ofString name) (.ofString value)) standardEnvironment

/-- These events, and as many more as it takes to be over with them: if the time is not limited and
the session goes on, the machine loses the output of the program. -/
def performanceOf {k : Comparator} {r : Runner} {t : Testcase} (events : List Event)
    (elapsed : Duration) : Performance k r t :=
  if h : r.timeLimit.isSome then
    .played events elapsed fun _ => Session.isSome_conclusion?_of_limited h
  else
    .played (events ++ [.broken .output .inputOutput]) elapsed fun _ =>
      Session.isSome_conclusion?_of_broken _ _ _ _ _ _

/-- Run a program against a test case. -/
def perform (h : Host) (k : Comparator) (r : Runner) (t : Testcase) : Performance k r t × Host :=
  let command := r.command.map Shell.Text.ofString
  let environment := h.shellEnvironment
  let searchPath := Machine.searchPathOf environment
  match Machine.startProgram h.files h.directory false searchPath command environment with
  | .error cause => (.unstarted cause, h)
  | .ok program =>
    let c := (Conversation.start k r t h.files h.directory program).run r Conversation.patience
    (performanceOf c.events.reverse ⟨c.machine.now⟩, { h with files := c.machine.files })

/-- The host as a stage. -/
def stage : Stage Host where
  load h f := f.load h.files h.directory
  perform := perform

end Host

end Rehearsal
