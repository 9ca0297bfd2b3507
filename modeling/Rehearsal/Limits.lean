import Rehearsal.Checked

/-!
# Limits on what a diagnostic shows

A long diagnostic is cut. Each limit has some slack added before anything is cut, so that a
diagnostic is never cut for the sake of a line or two. With limits that are large enough the sum is
not a number of 64 bits; valid limits may be as large as that.
-/

namespace Rehearsal

/-- How much of a failed conversation is shown. -/
structure Limits where
  /-- Lines of leftover input or expected output shown after an early end. -/
  postCrashLines : Nat := 15
  /-- Wrong lines shown. -/
  wrongLines : Nat := 10
  /-- The slack added to both. -/
  overflowMargin : Nat := 5
  deriving DecidableEq, Repr, Inhabited

namespace Limits

/-- The number of wrong lines at which a session stops, if it is a number of 64 bits. -/
def overflowThreshold? (l : Limits) : Option Nat := Checked.add? l.wrongLines l.overflowMargin

/-- The number of leftover lines from which on they are cut, if it is a number of 64 bits. -/
def leftoverThreshold? (l : Limits) : Option Nat := Checked.add? l.postCrashLines l.overflowMargin

/-- At least one wrong line must be shown. -/
def isValid (l : Limits) : Bool := 0 < l.wrongLines

/-- What is said of limits that are not valid. -/
def invalidMessage : String := "`wrong_lines` must be at least 1"

end Limits

end Rehearsal
