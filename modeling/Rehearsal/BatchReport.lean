import Rehearsal.Outcome
import Rehearsal.Files.Store

/-!
# The report of a run

The outcomes of a run, how many tests were never started, and whether the run was broken off. The
report is a JSON document with one record for each outcome, in order.
-/

namespace Rehearsal

/-- What a run over several tests came to. -/
structure BatchOutcome where
  outcomes : List Outcome
  /-- How many tests were never started. -/
  skipped : Nat
  /-- Was the run broken off? -/
  aborted : Bool
  deriving DecidableEq, Repr

namespace BatchOutcome

/-- Did the run go to its end, with every test passing? -/
def allPassed (b : BatchOutcome) : Bool := !b.aborted && b.outcomes.all (·.passed)

/-- The record of an outcome. The milliseconds are cut to 64 bits. -/
def record (o : Outcome) : Json :=
  .object [
    ("name", .string o.name),
    ("passed", .bool o.passed),
    ("reason", (o.verdict.reason?.map fun r => Json.string r.name).getD .null),
    ("elapsed_ms", .integer (o.elapsed.wholeMillis % Nat.pow 2 64 : Nat)),
    ("diagnostic", .string o.verdict.diagnosticText)]

/-- The report as a document. -/
def toJson (b : BatchOutcome) : Json :=
  .object [
    ("aborted", .bool b.aborted),
    ("skipped", .integer b.skipped),
    ("outcomes", .array (b.outcomes.map record))]

/-- What is said when a report cannot be written. -/
def reportContext : String := "Failed to write JSON report"

/-- Write the report to a file. -/
def writeJson (b : BatchOutcome) (t : FileTree) (cwd : Place) (p : Path) : FileTree.Change :=
  t.writeJsonWithMkdir cwd p (.ok b.toJson)

end BatchOutcome

end Rehearsal
