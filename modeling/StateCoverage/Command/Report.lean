import StateCoverage.Command.Options
import StateCoverage.Command.Usage
import StateCoverage.Diagnostic
import StateCoverage.Text.Json

/-!
# Reports

The findings of a run as text or as JSON.
-/

namespace StateCoverage

/-- A diagnostic as a JSON object. -/
def Diagnostic.toJson (d : Diagnostic) : Text.Json :=
  let texts (ss : List String) : Text.Json := .list (ss.map .text)
  .object [
    ("rule", .text ruleName),
    ("kind", .text d.kind.label),
    ("severity", .text d.severity.label),
    ("path", match d.path? with
      | some p => .text p
      | none => .null),
    ("line", .int d.location.line),
    ("column", .int d.location.column),
    ("state", .text d.state),
    ("message_name", .text d.message),
    ("declared_count", .int d.declared.length),
    ("declared_states", texts d.declared),
    ("observed_states", texts d.observed),
    ("message", .text d.explanation)]

/-- The findings as JSON. -/
def jsonReport (ds : List Diagnostic) : List String :=
  [Text.Json.render 0 (.list (ds.map Diagnostic.toJson))]

/-- A line across the text report. -/
def ruler : String := String.ofList (List.replicate 60 '=')

/-- A diagnostic in the text report; columns count from one there. -/
def Diagnostic.lines (d : Diagnostic) : List String :=
  let path := d.path?.getD "None"
  [s!"✗ {path}:{d.location.line}:{d.location.column + 1} [{d.kind.label}] {d.severity.label}",
   s!"  {d.explanation}",
   ""]

/-- The findings as text, with the number of files checked. -/
def textReport (ds : List Diagnostic) (filesChecked : Nat) : List String :=
  if ds.isEmpty then
    [s!"✓ No state machine coverage gaps detected ({filesChecked} files checked)"]
  else
    [ruler, "STATE MACHINE COVERAGE GAPS", ruler]
      ++ ds.flatMap Diagnostic.lines
      ++ [s!"Total coverage gaps: {ds.length} ({filesChecked} files checked)"]

/-- The report of a run. -/
def report (format : ReportFormat) (ds : List Diagnostic) (filesChecked : Nat) : List String :=
  match format with
  | .json => jsonReport ds
  | .text => textReport ds filesChecked

end StateCoverage
