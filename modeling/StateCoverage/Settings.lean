import StateCoverage.Diagnostic

/-!
# Settings of the check

Whether the check runs, how grave its findings are, and which files of a
directory it looks at.
-/

namespace StateCoverage

/-- The settings of a run. -/
structure Settings where
  enabled : Bool
  severity : Severity
  /-- A file of a directory is checked if one of these patterns matches it, -/
  includes : List String
  /-- and none of these does. -/
  excludes : List String
  deriving Repr, DecidableEq

namespace Settings

/-- The settings that hold where nothing else is said. -/
def standard : Settings := ⟨true, .error, ["*.py"], []⟩

instance : Inhabited Settings := ⟨standard⟩

end Settings

end StateCoverage
