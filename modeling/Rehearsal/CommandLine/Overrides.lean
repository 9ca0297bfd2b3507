import Rehearsal.CommandLine.Options

/-!
# Options over a configuration

What the command line says of a run goes before what its configuration says. Only what is given
counts; no words after the two dashes leave the program as it is configured.
-/

namespace Rehearsal.CommandLine

/-- The configuration that holds once the command line has had its say. -/
def Options.override (o : Options) (command : List String) (c : Config) : Config :=
  { c with
    stepDelay := o.stepDelay.getD c.stepDelay
    warmupDelay := o.warmupDelay.getD c.warmupDelay
    timeLimit := o.timeLimit <|> c.timeLimit
    suffix := o.suffix.getD c.suffix
    inputDir := o.inputDir.getD c.inputDir
    outputDir := o.outputDir.getD c.outputDir
    unterminatedOutput := o.unterminatedOutput.getD c.unterminatedOutput
    command := if command.isEmpty then c.command else command }

end Rehearsal.CommandLine
