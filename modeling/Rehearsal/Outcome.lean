import Rehearsal.Verdict
import Rehearsal.Duration

/-!
# What a test came to

The outcome of one test: its name, its verdict, and how long it took.
-/

namespace Rehearsal

/-- The outcome of one test. -/
structure Outcome where
  name : String
  verdict : Verdict
  elapsed : Duration
  deriving DecidableEq, Repr

namespace Outcome

def passed (o : Outcome) : Bool := o.verdict.isPass

/-- How many tests passed. -/
def countPassed (outcomes : List Outcome) : Nat := outcomes.countP (·.passed)

/-- How many tests failed for this reason. -/
def countReason (outcomes : List Outcome) (reason : FailReason) : Nat :=
  outcomes.countP (·.verdict.reason? == some reason)

end Outcome

end Rehearsal
