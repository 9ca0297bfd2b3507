import Rehearsal.Config.Toml

/-!
# The example configuration

The text with which a new configuration file begins. Every key stands in it with a word about what
it is for.
-/

namespace Rehearsal.Config

/-- The lines of the example. -/
def exampleLines : List String := [
    "# inout-stepper configuration.",
    "# Every key can also be given as an environment variable named",
    "# STEPPER_<KEY> (upper-case), e.g. STEPPER_STEP_DELAY=0.01.",
    "",
    "# Seconds to wait for output before feeding the next line of input.",
    "step_delay = 0.01",
    "",
    "# Seconds to wait before feeding the very first line of input.",
    "warmup_delay = 0.1",
    "",
    "# Lines of leftover input/expected output shown after a premature exit.",
    "post_crash_lines = 15",
    "",
    "# Lines of incorrect output shown after a mismatch.",
    "wrong_lines = 10",
    "",
    "# Extra incorrect lines collected past `wrong_lines` before giving up on a test.",
    "overflow_margin = 5",
    "",
    "# Testcases are `<input_dir>/<name>.<suffix>` paired with `<output_dir>/<name>.expected`.",
    "suffix = \"input\"",
    "input_dir = \"./tests\"",
    "output_dir = \"./tests\"",
    "",
    "# Program under test.",
    "command = [\"python3\", \"main.py\"]",
    "",
    "# Wall-clock limit per test in seconds (optional).",
    "# time_limit = 10.0",
    "",
    "# What to do when the program's output ends without a newline:",
    "# \"abort-batch\" stops the whole run, \"fail-case\" fails only that test.",
    "unterminated_output = \"abort-batch\""]

/-- The text of the example. -/
def exampleText : String := String.join (exampleLines.map (· ++ "\n"))

end Rehearsal.Config
