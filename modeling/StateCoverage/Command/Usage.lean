import StateCoverage.Command.Options
import StateCoverage.Diagnostic

/-!
# Usage and help

The texts that tell how the command is used.
-/

namespace StateCoverage

/-- The name of the command. -/
def commandName : String := "fsm-coverage"

/-- Lines with a line end after each. -/
def asLines (ls : List String) : String :=
  String.join (ls.map (· ++ "\n"))

/-- How the command is used. -/
def usageLines : List String :=
  [s!"usage: {commandName} [-h] [--config CONFIG] [--severity SEVERITY] [--disable]",
   "                    [--format \x7btext,json\x7d] [--fail-on-violation] [-v]",
   "                    paths [paths ...]"]

/-- What each option does. -/
def optionLines : List String :=
  ["options:",
   "  -h, --help            show this help message and exit",
   "  --config CONFIG       Path to settings file (default: ./fsm_coverage.yaml)",
   "  --severity SEVERITY   Override severity (error or warning)",
   "  --disable             Disable the check",
   "  --format \x7btext,json\x7d",
   "  --fail-on-violation   Exit 1 on error-severity coverage gaps",
   "  -v, --verbose         Debug logging"]

/-- Words put on lines of at most so many characters. -/
def fillLines (width : Nat) (words : List String) : List String :=
  words.foldl (fun lines w =>
    match lines.getLast? with
    | some last =>
        if last.length + 1 + w.length ≤ width then lines.dropLast ++ [last ++ " " ++ w]
        else lines ++ [w]
    | none => [w]) []

/-- The widest line of the help text. -/
def helpWidth : Nat := 78

/-- The help text. -/
def helpLines : List String :=
  usageLines ++ [""]
    ++ fillLines helpWidth ((ruleName ++ ": " ++ ruleDescription).splitOn " ")
    ++ ["", "positional arguments:", "  paths                 Files or directories to scan", ""]
    ++ optionLines

/-- The complaint about a command line. -/
def refusalLines (f : UsageFault) : List String :=
  usageLines ++ [s!"{commandName}: error: {f.message}"]

end StateCoverage
