import StateCoverage.Command.Report
import StateCoverage.Proofs.JsonReading

/-!
# What a report says

`Prints` spells out what is printed about some diagnostics and a number of
checked files: in JSON one text that is read as the list of their records, in
plain text a heading, three lines for each and a total, or one line if there are
none.  Every report is of this kind.

* `Diagnostic.record` — the twelve fields of a diagnostic.
* `prints_report` — the report of some diagnostics prints them.
-/

namespace StateCoverage

namespace Diagnostic

/-- The word for the kind of a diagnostic. -/
def kindWord (d : Diagnostic) : String :=
  if d.kind = .alwaysSameState then "ALWAYS_SAME_STATE" else "PARTIAL_UNION"

/-- The word for the severity of a diagnostic. -/
def severityWord (d : Diagnostic) : String :=
  if d.severity = .error then "error" else "warning"

/-- What a diagnostic says of its transition. -/
def sentence (d : Diagnostic) : String :=
  let count := toString d.declared.length
  let declared := ", ".intercalate d.declared
  let observed := ", ".intercalate d.observed
  if d.kind = .alwaysSameState then
    "The \"" ++ d.message ++ "\" message declares " ++ count ++ " possible target states ["
      ++ declared ++ "], but your implementation always returns \"" ++ observed
      ++ "\". If only one state is possible, update the config to reflect this."
  else
    "The \"" ++ d.message ++ "\" message can transition to " ++ count ++ " states ["
      ++ declared ++ "], but execute() only ever returns \"" ++ observed
      ++ "\". Consider adding conditional logic to return different states based on the situation."

/-- The fields of a diagnostic in a report. -/
def record (d : Diagnostic) : Text.Json :=
  .object [
    ("rule", .text "state-machine-union-return"),
    ("kind", .text d.kindWord),
    ("severity", .text d.severityWord),
    ("path", d.path?.elim .null .text),
    ("line", .int d.location.line),
    ("column", .int d.location.column),
    ("state", .text d.state),
    ("message_name", .text d.message),
    ("declared_count", .int d.declared.length),
    ("declared_states", .list (d.declared.map .text)),
    ("observed_states", .list (d.observed.map .text)),
    ("message", .text d.sentence)]

/-- The lines about a diagnostic in a plain report, which counts columns from
one. -/
def entry (d : Diagnostic) : List String :=
  ["✗ " ++ d.path?.getD "None" ++ ":" ++ toString d.location.line ++ ":"
      ++ toString (d.location.column + 1) ++ " [" ++ d.kindWord ++ "] " ++ d.severityWord,
    "  " ++ d.sentence,
    ""]

theorem label_kind (d : Diagnostic) : d.kind.label = d.kindWord := by
  unfold kindWord
  cases d.kind <;> rfl

theorem label_severity (d : Diagnostic) : d.severity.label = d.severityWord := by
  unfold severityWord
  cases d.severity <;> rfl

/-- The explanation of a gap is `sentence`. -/
theorem explanation_eq_sentence (d : Diagnostic) : d.explanation = d.sentence := by
  unfold explanation sentence
  cases d.kind <;> rfl

/-- A gap in JSON is `record`. -/
theorem toJson_eq_record (d : Diagnostic) : d.toJson = d.record := by
  unfold toJson record
  rw [label_kind, label_severity, explanation_eq_sentence]
  cases d.path? <;> rfl

/-- The lines about a gap in a plain report are `entry`. -/
theorem lines_eq_entry (d : Diagnostic) : d.lines = d.entry := by
  unfold lines entry
  rw [label_kind, label_severity, explanation_eq_sentence]
  rfl

end Diagnostic

/-- What is printed is one text, and it is read as this list. -/
def PrintsList (output : List String) (items : List Text.Json) : Prop :=
  ∃ text, output = [text] ∧ Text.Json.read? text = some (.list items)

/-- What is printed about some diagnostics, found in so many files. -/
inductive Prints (ds : List Diagnostic) (files : Nat) : ReportFormat → List String → Prop
  | json {output : List String} (items : PrintsList output (ds.map Diagnostic.record)) :
      Prints ds files .json output
  | clean (none : ds = []) :
      Prints ds files .text
        ["✓ No state machine coverage gaps detected (" ++ toString files ++ " files checked)"]
  | gaps (some : ds ≠ []) :
      Prints ds files .text
        (["============================================================",
          "STATE MACHINE COVERAGE GAPS",
          "============================================================"]
        ++ ds.flatMap Diagnostic.entry
        ++ ["Total coverage gaps: " ++ toString ds.length ++ " (" ++ toString files
          ++ " files checked)"])

/-- A report in JSON is read as the records of the gaps, in order. -/
theorem printsList_jsonReport (ds : List Diagnostic) :
    PrintsList (jsonReport ds) (ds.map Diagnostic.record) := by
  refine ⟨_, rfl, ?_⟩
  rw [Text.Json.read?_render, List.map_congr_left fun d _ => d.toJson_eq_record]

/-- The report of some diagnostics prints them. -/
theorem prints_report (format : ReportFormat) (ds : List Diagnostic) (files : Nat) :
    Prints ds files format (report format ds files) := by
  cases format with
  | json => exact .json (printsList_jsonReport ds)
  | text =>
    have entries : ds.flatMap Diagnostic.lines = ds.flatMap Diagnostic.entry :=
      List.flatMap_congr fun d _ => d.lines_eq_entry
    rw [report, textReport, entries]
    by_cases none : ds = []
    · rw [if_pos (List.isEmpty_iff.2 none)]
      exact .clean none
    · rw [if_neg (mt List.isEmpty_iff.1 none)]
      exact .gaps none

end StateCoverage
