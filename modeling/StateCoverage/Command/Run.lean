import StateCoverage.Analysis
import StateCoverage.Command.Report
import StateCoverage.Files.Discovery
import StateCoverage.Settings.File

/-!
# Runs

A run loads the settings, checks every file that its paths lead to, and reports
what it found.  A file that cannot be opened or read as source gives one line of
complaint and stops nothing.  What the bytes of a file say is left to readers,
which a run is given.

* `Readers` — the readers of a run.
* `checkFile` — the gaps of one file.
* `checkAll` — the outcome of all files of a run.
* `run` — what a command line prints and returns.
-/

namespace StateCoverage

/-! ## One file -/

/-- Why a file cannot be checked. -/
inductive SourceFault where
  | unreadable (reason : String)
  | undecodable (fault : Text.Utf8Fault)
  | ungrammatical
  deriving Repr, DecidableEq

/-- The wording of a fault. -/
def SourceFault.message : SourceFault → String
  | .unreadable reason => reason
  | .undecodable f => f.message
  | .ungrammatical => "<SyntaxError>"

/-- What a run reads files with: the tree of a source file, and what a settings
file holds. -/
structure Readers where
  parse : List UInt8 → Except SourceFault Module
  load : YamlReader

/-- The tree of a file. -/
def FoundFile.parse (readers : Readers) (f : FoundFile) : Except SourceFault Module := do
  readers.parse (← f.content.mapError .unreadable)

/-- The gaps of a file. -/
def checkFile (readers : Readers) (settings : Settings) (f : FoundFile) :
    Except SourceFault (List Diagnostic) := do
  return analyze settings (some f.path) (.module (← f.parse readers))

/-! ## Messages -/

/-- How grave a message is. -/
inductive LogLevel where
  | debug
  | warning
  deriving Repr, DecidableEq

/-- The word for a level. -/
def LogLevel.label : LogLevel → String
  | .debug => "DEBUG"
  | .warning => "WARNING"

/-- A message of a part of the program. -/
structure LogEntry where
  source : String
  level : LogLevel
  text : String
  deriving Repr, DecidableEq

/-- A message as a line. -/
def LogEntry.line (e : LogEntry) : String :=
  s!"{e.source} - {e.level.label} - {e.text}"

/-- The message of an event of the check. -/
def TraceEvent.logEntry : TraceEvent → LogEntry
  | .skippedCall line =>
      ⟨"fsm_coverage.locator", .debug,
        s!"Skipping {constructorName} at line {line}: config/commands are not literal structures"⟩
  | .noThunk path line state message =>
      ⟨"fsm_coverage.analyzer", .debug,
        s!"{path}:{line}: no execute thunk for {state}.{message}, skipping"⟩
  | .gapCount path count =>
      ⟨"fsm_coverage.analyzer", .debug, s!"{path}: {count} coverage gap(s)"⟩

/-- Settings as they are shown in messages. -/
def Settings.shown (s : Settings) : String :=
  let texts (ss : List String) : String := (Value.list (ss.map .text)).shown
  let enabled := (Value.bool s.enabled).shown
  let severity := s!"<Severity.{s.severity.label.toUpper}: {Text.quoted s.severity.label}>"
  s!"AnalyzerSettings(enabled={enabled}, severity={severity}, include={texts s.includes}, exclude={texts s.excludes})"

/-- The message that settings were loaded from a file. -/
def loadedEntry (path : String) (s : Settings) : LogEntry :=
  ⟨"fsm_coverage.settings", .debug, s!"Loaded settings from {path}: {s.shown}"⟩

/-- The lines of the messages that are wanted: warnings always, the rest in a
verbose run. -/
def logLines (verbose : Bool) (es : List LogEntry) : List String :=
  (es.filter fun e => verbose || e.level = .warning).map LogEntry.line

/-! ## All files -/

/-- What the check of some files has brought. -/
structure Outcome where
  diagnostics : List Diagnostic
  filesChecked : Nat
  /-- Whether some file could not be checked. -/
  hasFailed : Bool
  /-- What goes to standard error meanwhile. -/
  errorLines : List String

namespace Outcome

/-- The outcome of no files. -/
def empty : Outcome := ⟨[], 0, false, []⟩

/-- Two outcomes, one after the other. -/
def append (a b : Outcome) : Outcome :=
  ⟨a.diagnostics ++ b.diagnostics, a.filesChecked + b.filesChecked, a.hasFailed || b.hasFailed,
   a.errorLines ++ b.errorLines⟩

instance : Append Outcome := ⟨append⟩

end Outcome

section Files

variable (readers : Readers) (source : String) (verbose : Bool) (settings : Settings)

/-- The outcome of one file. -/
def fileOutcome (f : FoundFile) : Outcome :=
  match f.parse readers with
  | .ok m =>
      let events := traceOf settings f.path (.module m)
      ⟨analyze settings (some f.path) (.module m), 1, false,
       logLines verbose (events.map TraceEvent.logEntry)⟩
  | .error fault => ⟨[], 0, true, [s!"ERROR: Could not parse {f.path}: {fault.message}"]⟩

/-- The outcome of one discovery; `source` is the name under which the command
speaks. -/
def discoveryOutcome : Discovery → Outcome
  | .file f => fileOutcome readers verbose settings f
  | .missing path =>
      ⟨[], 0, false, logLines verbose [⟨source, .warning, s!"Path does not exist: {path}"⟩]⟩

/-- The outcome of all files of a run. -/
def checkAll (files : FileSystem) (paths : List String) : Outcome :=
  (discover files settings paths).foldr
    (fun d rest => discoveryOutcome readers source verbose settings d ++ rest) .empty

end Files

/-! ## The whole run -/

/-- How a command ends: with a code, or by a fault that it is not prepared for. -/
inductive Ending where
  | code (n : Nat)
  | loadFault (fault : LoadFault)
  /-- An option lost its value. -/
  | valueLost

/-- What a command prints and how it ends. -/
structure Result where
  output : List String
  errors : List String
  ending : Ending

/-- The code of a run whose files could be looked for. -/
def exitCode (failOnViolation : Bool) (o : Outcome) : Nat :=
  if o.hasFailed then 2
  else if failOnViolation && o.diagnostics.any fun d => d.severity = .error then 1
  else 0

/-- The settings of a run: those of the file with what the options change, and
the messages about them. -/
def effectiveSettings (options : Options) (loaded : LoadedSettings) :
    Except LoadFault Settings := do
  let severity ← match options.severity? with
    | some s =>
        if s = "" then pure loaded.settings.severity
        else (Severity.ofValue? (.text s)).mapError .badSettings
    | none => pure loaded.settings.severity
  return { loaded.settings with severity, enabled := loaded.settings.enabled && !options.disable }

/-- A run that ends because settings cannot be loaded. -/
def settingsFailure (before : List String) (fault : LoadFault) : Result :=
  match fault.message? with
  | some message =>
      let detail := match fault.detail? with
        | some d => ": " ++ d
        | none => ""
      ⟨[], before ++ [s!"ERROR: {message}{detail}"], .code 2⟩
  | none => ⟨[], before, .loadFault fault⟩

/-- A run with given options. -/
def runOptions (readers : Readers) (source : String) (files : FileSystem) (options : Options) :
    Result :=
  match loadSettings readers.load files options.config? with
  | .error fault => settingsFailure [] fault
  | .ok loaded =>
      let before := logLines options.verbose
        (loaded.path?.toList.map fun p => loadedEntry p loaded.settings)
      match effectiveSettings options loaded with
      | .error fault => settingsFailure before fault
      | .ok settings =>
          let o := checkAll readers source options.verbose settings files options.paths
          ⟨report options.format o.diagnostics o.filesChecked, before ++ o.errorLines,
           .code (exitCode options.failOnViolation o)⟩

/-- What a command line prints and returns. -/
def run (readers : Readers) (source : String) (files : FileSystem) (args : List String) : Result :=
  match Options.parse args with
  | .run options => runOptions readers source files options
  | .help => ⟨helpLines, [], .code 0⟩
  | .refuse fault => ⟨[], refusalLines fault, .code 2⟩
  | .valueLost => ⟨[], [], .valueLost⟩

end StateCoverage
