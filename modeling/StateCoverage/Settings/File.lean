import StateCoverage.Files.Tree
import StateCoverage.Settings.Reading
import StateCoverage.Yaml.Stream

/-!
# Settings files

Settings stand in a YAML file: the one that is named, or the standard one if it
is there.  `loadSettings` opens it and leaves its bytes to a reader of YAML; a
fault either has wording for the user or is one that no run is prepared for.
-/

namespace StateCoverage

/-- The name of the settings file that is read if none is named. -/
def standardSettingsFile : String := "fsm_coverage.yaml"

/-- Why settings cannot be loaded. -/
inductive LoadFault where
  /-- The named file is not there. -/
  | missing (path : String)
  /-- The file cannot be opened. -/
  | unreadable (fault : PathFault)
  /-- The text has no value. -/
  | noValue (path : String) (fault : Yaml.Fault)
  /-- The value describes no settings. -/
  | badSettings (fault : SettingsFault)

/-- The wording of a fault for the user, if it is meant for the user. -/
def LoadFault.message? : LoadFault → Option String
  | .missing path => some s!"Settings file not found: {path}"
  | .noValue path .malformed => some s!"Invalid YAML syntax in {path}"
  | .badSettings f => f.message?
  | _ => none

/-- What is said after the wording of a fault. -/
def LoadFault.detail? : LoadFault → Option String
  | .noValue _ .malformed => some "<YAMLError>"
  | _ => none

/-- A reader of YAML: what the bytes of a file hold. -/
abbrev YamlReader := List UInt8 → Except Yaml.Fault SettingsContent

/-- The settings that the bytes of a file describe. -/
def settingsIn (load : YamlReader) (path : String) (bytes : List UInt8) :
    Except LoadFault Settings := do
  let content ← (load bytes).mapError (.noValue path)
  (Settings.ofContent? content).mapError .badSettings

/-- The settings in the file at a path. -/
def settingsAt (load : YamlReader) (files : FileSystem) (path : String) :
    Except LoadFault Settings := do
  match files.read path with
  | .error .notFound => throw (.missing path)
  | .error f => throw (.unreadable f)
  | .ok bytes => settingsIn load path bytes

/-- Settings and the file that they come from, if they come from one. -/
structure LoadedSettings where
  settings : Settings
  path? : Option String

/-- The settings in the named file, or else in the standard one; without that
the standard settings hold. -/
def loadSettings (load : YamlReader) (files : FileSystem) (path? : Option String) :
    Except LoadFault LoadedSettings := do
  match path? with
  | some path => return ⟨← settingsAt load files path, some path⟩
  | none =>
      match files.find standardSettingsFile with
      | .ok _ => return ⟨← settingsAt load files standardSettingsFile, some standardSettingsFile⟩
      | .error _ => return ⟨.standard, none⟩

end StateCoverage
