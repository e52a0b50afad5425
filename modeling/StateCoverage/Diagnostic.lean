import StateCoverage.Source.Span

/-!
# Coverage gaps

A diagnostic reports one transition whose command returns fewer states than the
machine declares for it.  It always names at least one observed state and fewer
observed states than declared ones; `Diagnostic.ofCount?` builds one from
separate parts and says what is wrong when these rules do not hold.
-/

namespace StateCoverage

/-- The name of the check. -/
def ruleName : String := "state-machine-union-return"

/-- What the check ensures. -/
def ruleDescription : String :=
  "Ensure command factories can return all possible target states when multiple states are declared"

/-- How many of the declared states are returned. -/
inductive GapKind where
  /-- A single one. -/
  | alwaysSameState
  /-- More than one, but not all. -/
  | partialUnion
  deriving Repr, DecidableEq, Inhabited

namespace GapKind

/-- The tag of a kind in reports. -/
def label : GapKind → String
  | .alwaysSameState => "ALWAYS_SAME_STATE"
  | .partialUnion => "PARTIAL_UNION"

end GapKind

/-- How grave a gap is taken to be. -/
inductive Severity where
  | error
  | warning
  deriving Repr, DecidableEq, Inhabited

namespace Severity

/-- Both severities. -/
def all : List Severity := [error, warning]

/-- The word for a severity in settings and reports. -/
def label : Severity → String
  | .error => "error"
  | .warning => "warning"

/-- The severity with a given word. -/
def ofLabel? (s : String) : Option Severity :=
  all.find? fun v => v.label = s

end Severity

/-- Where a gap is reported: a line counted from one and a byte column counted
from zero, with the end where it is known. -/
structure Location where
  line : Int
  column : Int
  endLine? : Option Int
  endColumn? : Option Int
  deriving Repr, DecidableEq, Inhabited

/-- The location of a span. -/
def Location.ofSpan (s : Span) : Location :=
  ⟨s.start.line, s.start.column, some s.stop.line, some s.stop.column⟩

/-- One coverage gap: in `state`, the command for `message` returns only the
`observed` ones of the `declared` states. -/
structure Diagnostic where
  kind : GapKind
  state : String
  message : String
  declared : List String
  observed : List String
  location : Location
  path? : Option String
  severity : Severity
  observed_ne_nil : observed ≠ []
  observed_lt_declared : observed.length < declared.length
  deriving Repr, DecidableEq

/-- Why parts do not make a diagnostic. -/
inductive DiagnosticFault where
  /-- The count given is not the number of declared states. -/
  | countMismatch (count : Int) (declared : Nat)
  /-- No state is observed. -/
  | nothingObserved
  /-- As many states are observed as declared. -/
  | allCovered (observed : Nat) (count : Int)
  deriving Repr, DecidableEq

/-- The wording of a fault. -/
def DiagnosticFault.message : DiagnosticFault → String
  | .countMismatch count declared =>
      s!"declared_count {count} does not match {declared} declared states"
  | .nothingObserved => "observed_states cannot be empty"
  | .allCovered observed count =>
      s!"{observed} observed states cover all {count} declared states"

namespace Diagnostic

/-- A diagnostic for given states, if it satisfies the rules. -/
def ofCount? (kind : GapKind) (state message : String) (count : Int)
    (declared observed : List String) (location : Location) :
    Except DiagnosticFault Diagnostic :=
  if count ≠ declared.length then .error (.countMismatch count declared.length)
  else if h : observed = [] then .error .nothingObserved
  else if h' : observed.length < declared.length then
    .ok {
      kind, state, message, declared, observed, location
      path? := none
      severity := .error
      observed_ne_nil := h
      observed_lt_declared := h'
    }
  else .error (.allCovered observed.length count)

/-- The sentence that explains a gap. -/
def explanation (d : Diagnostic) : String :=
  let count := d.declared.length
  let states := ", ".intercalate d.declared
  let actual := ", ".intercalate d.observed
  match d.kind with
  | .alwaysSameState =>
      s!"The \"{d.message}\" message declares {count} possible target states [{states}], but your implementation always returns \"{actual}\". If only one state is possible, update the config to reflect this."
  | .partialUnion =>
      s!"The \"{d.message}\" message can transition to {count} states [{states}], but execute() only ever returns \"{actual}\". Consider adding conditional logic to return different states based on the situation."

end Diagnostic

/-- The gap between the states declared for a transition and those observed, if
there is one: no observed state settles nothing, and as many as declared are
taken to be enough. -/
def coverageGap? (state message : String) (declared observed : List String)
    (location : Location) (path? : Option String) (severity : Severity) : Option Diagnostic :=
  if h : observed ≠ [] ∧ observed.length < declared.length then
    some {
      kind := if observed.length = 1 then .alwaysSameState else .partialUnion
      state, message, declared, observed, location, path?, severity
      observed_ne_nil := h.1
      observed_lt_declared := h.2
    }
  else none

end StateCoverage
