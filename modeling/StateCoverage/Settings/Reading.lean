import StateCoverage.Settings
import StateCoverage.Settings.Value
import StateCoverage.Text.Lowercase

/-!
# Settings from a value

A settings file holds a mapping with some of the keys `enabled`, `severity`,
`include` and `exclude`.  `Settings.ofValue?` reads it; what is wrong first, in
that order, is the fault it reports.

The values of a mapping are looked at only as far as they are needed, so
`Settings.ofEntries?` takes them as thunks.  `SettingsContent` is what a
settings file is found to hold: such a mapping, or another value.
-/

namespace StateCoverage

/-- Why a value does not describe settings. -/
inductive SettingsFault where
  | notMapping
  /-- Keys that mean nothing, sorted. -/
  | unknownKeys (keys : List String)
  /-- A key that is no text among those that mean nothing. -/
  | keyNotText
  | enabledNotBool (v : Value)
  | badSeverity (v : Value)
  | badPatterns (key : String)
  /-- The complaint would show a number with too many digits. -/
  | unshowable

/-- The keys of a settings file. -/
def settingsKeys : List String := ["enabled", "severity", "include", "exclude"]

/-- The wording of a fault; one without wording is not meant for the user. -/
def SettingsFault.message? : SettingsFault → Option String
  | .notMapping => some "Settings file must contain a mapping"
  | .unknownKeys keys => some ("Unknown settings: " ++ ", ".intercalate keys)
  | .keyNotText => none
  | .enabledNotBool v => some s!"'enabled' must be true or false, got {v.shown}"
  | .badSeverity v =>
      let allowed := ", ".intercalate (Severity.all.map Severity.label)
      some s!"Invalid severity '{v.plain}' (expected one of: {allowed})"
  | .badPatterns key => some s!"'{key}' must be a list of glob patterns"
  | .unshowable => none

/-- The severity that a value names, in capitals or not. -/
def Severity.ofValue? (v : Value) : Except SettingsFault Severity :=
  if !v.isShowable then .error .unshowable
  else match Severity.ofLabel? (String.ofList (Text.lowercase v.plain.toList)) with
    | some s => .ok s
    | none => .error (.badSeverity v)

/-- The text that a value is. -/
def Value.text? : Value → Option String
  | .text s => some s
  | _ => none

/-- The entries of a mapping, with values that are given when they are needed. -/
abbrev SettingsEntries := List (Value × Thunk Value)

/-- The value under a text key. -/
def valueUnder? (key : String) (entries : SettingsEntries) : Option Value :=
  entries.findSome? fun e => if e.1.text? = some key then some e.2.get else none

/-- The patterns under a key, or those that hold without it. -/
def patternsOf (key : String) (fallback : List String) (entries : SettingsEntries) :
    Except SettingsFault (List String) :=
  match valueUnder? key entries with
  | none => .ok fallback
  | some (.list items) =>
      match items.mapM Value.text? with
      | some patterns => .ok patterns
      | none => .error (.badPatterns key)
  | some _ => .error (.badPatterns key)

/-- The check that every key means something. -/
def checkKeys (entries : SettingsEntries) : Except SettingsFault Unit :=
  let unknown := (entries.map Prod.fst).filter fun k => !k.text?.any (· ∈ settingsKeys)
  match unknown.mapM Value.text? with
  | none => .error .keyNotText
  | some [] => .ok ()
  | some keys => .error (.unknownKeys (keys.mergeSort fun a b => decide (a ≤ b)))

/-- Whether the check is on. -/
def enabledOf (entries : SettingsEntries) : Except SettingsFault Bool :=
  match valueUnder? "enabled" entries with
  | none => .ok Settings.standard.enabled
  | some (.bool b) => .ok b
  | some v => .error (if v.isShowable then .enabledNotBool v else .unshowable)

/-- The severity of findings. -/
def severityOf (entries : SettingsEntries) : Except SettingsFault Severity :=
  match valueUnder? "severity" entries with
  | none => .ok Settings.standard.severity
  | some v => Severity.ofValue? v

/-- The settings that the entries of a mapping describe. -/
def Settings.ofEntries? (entries : SettingsEntries) : Except SettingsFault Settings := do
  checkKeys entries
  let enabled ← enabledOf entries
  let severity ← severityOf entries
  let includes ← patternsOf "include" Settings.standard.includes entries
  let excludes ← patternsOf "exclude" Settings.standard.excludes entries
  return ⟨enabled, severity, includes, excludes⟩

/-- The settings that a value describes; an empty file describes the standard
ones. -/
def Settings.ofValue? : Value → Except SettingsFault Settings
  | .null => .ok .standard
  | .mapping entries => Settings.ofEntries? (entries.map fun (k, v) => (k, Thunk.pure v))
  | _ => .error .notMapping

/-- What a settings file holds. -/
inductive SettingsContent where
  | mapping (entries : SettingsEntries)
  | value (v : Value)

/-- The settings that the content of a file describes. -/
def Settings.ofContent? : SettingsContent → Except SettingsFault Settings
  | .mapping entries => Settings.ofEntries? entries
  | .value v => Settings.ofValue? v

end StateCoverage
