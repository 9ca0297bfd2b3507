import Rehearsal.Outcome
import Rehearsal.Sink

/-!
# What a run looks like on a terminal

Text may be painted by escape sequences: an introducer, the numbers of the style, the text, and a
reset. A reset inside the text would end the style early, so the style is begun again after it.
Whether escapes are written at all, and which colors a terminal has, is up to `Terminal`.

A run is shown as one `resultLine` for each test and a `summary`, which counts the failures by
their reason.
-/

namespace Rehearsal

/-- A color of a terminal. -/
inductive Color where
  | red
  | green
  | yellow
  | blue
  | magenta
  | cyan
  | brightBlack
  | brightRed
  | brightYellow
  | brightWhite
  | rgb (red green blue : Nat)
  deriving DecidableEq, Repr

namespace Color

/-- The place of a color among the eight of its row, and whether the row is the bright one. -/
def row : Color → Nat × Bool
  | .red => (1, false)
  | .green => (2, false)
  | .yellow => (3, false)
  | .blue => (4, false)
  | .magenta => (5, false)
  | .cyan => (6, false)
  | .brightBlack => (0, true)
  | .brightRed => (1, true)
  | .brightYellow => (3, true)
  | .brightWhite => (7, true)
  | .rgb .. => (8, false)

/-- The numbers that choose a color, given the first number of the normal and the bright row. -/
def codes (normal bright : Nat) (c : Color) : String :=
  match c with
  | .rgb r g b =>
    toString (normal + 8) ++ ";2;" ++ toString r ++ ";" ++ toString g ++ ";" ++ toString b
  | _ =>
    let (place, isBright) := c.row
    toString ((if isBright then bright else normal) + place)

end Color

/-- How a piece of text is painted. -/
structure Paint where
  bold : Bool := false
  dimmed : Bool := false
  background : Option Color := none
  foreground : Option Color := none

namespace Paint

/-- The numbers of a style, in the order in which they are written. -/
def codes (p : Paint) : List String :=
  (if p.bold then ["1"] else []) ++ (if p.dimmed then ["2"] else []) ++
    (p.background.map (·.codes 40 100)).toList ++ (p.foreground.map (·.codes 30 90)).toList

/-- The sequence that begins a style. -/
def opening (p : Paint) : String := "\x1b[" ++ ";".intercalate p.codes ++ "m"

/-- The sequence that ends every style. -/
def reset : String := "\x1b[0m"

end Paint

/-- What is known of the terminal. -/
structure Terminal where
  /-- Are escape sequences written? -/
  color : Bool := false
  /-- Does the terminal have 24-bit colors? -/
  trueColor : Bool := false
  deriving DecidableEq, Repr

namespace Terminal

/-- Whether a terminal has 24-bit colors, by the value of its `COLORTERM` variable. -/
def isTrueColor (colorterm : Option String) : Bool :=
  colorterm == some "truecolor" || colorterm == some "24bit"

/-- Paint a text. -/
def paint (t : Terminal) (p : Paint) (text : String) : String :=
  if !t.color || p.codes.isEmpty then text
  else p.opening ++ text.replace Paint.reset (Paint.reset ++ p.opening) ++ Paint.reset

/-! ### Badges -/

/-- The color of a verdict, from a palette of eight and in 24 bits. -/
def verdictColors : Option FailReason → Color × Color
  | none => (.green, .rgb 30 180 40)
  | some .outputMismatch | some .incompleteOutput | some .unconsumedInput =>
    (.yellow, .rgb 210 138 4)
  | some .timeLimitExceeded => (.red, .rgb 220 42 42)
  | some .stderrOutput | some .brokenPipe | some .unterminatedOutput =>
    (.magenta, .rgb 171 40 200)

/-- The color of a verdict on this terminal. -/
def verdictColor (t : Terminal) (reason : Option FailReason) : Color :=
  let (few, many) := verdictColors reason
  if t.trueColor then many else few

/-- The badge of a verdict: its tag, or `PASS`. -/
def badge (t : Terminal) (reason : Option FailReason) : String :=
  let foreground : Color := if t.trueColor then .rgb 255 255 255 else .brightBlack
  let paint : Paint :=
    { bold := true, background := some (t.verdictColor reason), foreground := some foreground }
  t.paint paint (" " ++ (reason.map (·.tag)).getD "PASS" ++ " ")

/-- One line for a test: its name, its badge, and the milliseconds it took. -/
def resultLine (t : Terminal) (o : Outcome) : String :=
  t.paint { bold := true, foreground := some .brightYellow } o.name ++ " " ++
    t.badge o.verdict.reason? ++ " [" ++ toString o.elapsed.wholeMillis ++ "ms]\n"

/-! ### The summary of a run -/

/-- The reasons for which tests failed, in order, with how many failed for each. -/
def reasonCounts (outcomes : List Outcome) : List (FailReason × Nat) :=
  (FailReason.all.map fun r => (r, Outcome.countReason outcomes r)).filter fun rc => 0 < rc.2

/-- A reason's badge and its count. -/
def reasonDetail (t : Terminal) (rc : FailReason × Nat) : String :=
  t.badge (some rc.1) ++ t.paint { dimmed := true } "x" ++
    t.paint { bold := true, foreground := some .brightWhite } (toString rc.2)

/-- What a summary says between its bars. The number of all tests is a sum that cannot be too large:
in a run it is the number of the test cases that were listed (`Batch.Accounts.total`), and a list of
these is in memory. -/
def summaryText (t : Terminal) (outcomes : List Outcome) (skipped : Nat) : String :=
  let total := outcomes.length + skipped
  let passed := Outcome.countPassed outcomes
  let failed := outcomes.length - passed
  if passed = total then
    t.paint { foreground := some .green } ("All " ++ toString total ++ " tests passed ✨")
  else
    let message :=
      if 0 < passed then toString failed ++ "/" ++ toString total ++ " tests failed 💣"
      else "All " ++ toString total ++ " tests failed 💀"
    let details := (reasonCounts outcomes).map t.reasonDetail ++
      (if 0 < skipped then [t.paint { dimmed := true } (toString skipped ++ " skipped")] else [])
    t.paint { foreground := some .brightRed } message ++ " (" ++ ", ".intercalate details ++ ")"

/-- The last line of a run. -/
def summary (t : Terminal) (outcomes : List Outcome) (skipped : Nat) : String :=
  "----- " ++ t.summaryText outcomes skipped ++ " -----\n"

end Terminal

end Rehearsal
