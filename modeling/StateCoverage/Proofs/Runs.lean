import StateCoverage.Command.Readers
import StateCoverage.Proofs.Gaps
import StateCoverage.Proofs.Reports
import StateCoverage.Proofs.SeverityNames

/-!
# Runs isolate failing files and compose over paths

A run checks one file after the other.  A file that cannot be opened, decoded or
parsed adds a line of complaint and nothing else, and the others are checked as
if it were not there.  So what a run reports is a sum over the files it finds,
and a run over two lists of paths is the sum of the runs over each.

* `reportedGaps`, `checkedCount`, `SomeFails` — what the files of a run come to.
* `accountsFor_checkAll` — the outcome of a run, part by part.
* `exitCode_append` — failing files count for more than gaps, and gaps for more
  than nothing.
* `run_isolates_and_composes` — what a run prints and returns.
-/

namespace StateCoverage

/-! ## What a file adds to a run -/

/-- The gaps of each file that does not fail. -/
def gapsByFile (readers : Readers) (settings : Settings) (fs : List FoundFile) :
    List (List Diagnostic) :=
  fs.filterMap fun f => (checkFile readers settings f).toOption

/-- Some file cannot be opened, decoded or parsed. -/
def AnyFails (readers : Readers) (settings : Settings) (fs : List FoundFile) : Prop :=
  ∃ f ∈ fs, ∃ fault, checkFile readers settings f = .error fault

/-- What goes to standard error for one discovery: the complaint about a file
that fails, the warning about a path that leads nowhere, and what a verbose run
tells of a file that is checked. -/
def Discovery.lines (readers : Readers) (source : String) (verbose : Bool) (settings : Settings) :
    Discovery → List String
  | .file f =>
      match f.parse readers with
      | .ok m =>
          if verbose then
            (traceOf settings f.path (.module m)).map fun e => e.logEntry.line
          else []
      | .error fault => [s!"ERROR: Could not parse {f.path}: {fault.message}"]
  | .missing path => [LogEntry.line ⟨source, .warning, s!"Path does not exist: {path}"⟩]

section Checks

variable {readers : Readers} {settings : Settings} {f : FoundFile}

theorem checkFile_of_parse_ok {m : Module} (h : f.parse readers = .ok m) :
    checkFile readers settings f = .ok (analyze settings (some f.path) (.module m)) := by
  rw [checkFile, h]
  rfl

theorem checkFile_of_parse_error {fault : SourceFault} (h : f.parse readers = .error fault) :
    checkFile readers settings f = .error fault := by
  rw [checkFile, h]
  rfl

theorem gapsByFile_of_ok {ds : List Diagnostic} (h : checkFile readers settings f = .ok ds) :
    gapsByFile readers settings [f] = [ds] := by
  simp [gapsByFile, h, Except.toOption]

/-- A failing file contributes nothing. -/
theorem gapsByFile_of_error {fault : SourceFault}
    (h : checkFile readers settings f = .error fault) : gapsByFile readers settings [f] = [] := by
  simp [gapsByFile, h, Except.toOption]

/-- Nothing is said of a file that is checked, unless the run is verbose. -/
theorem Discovery.lines_of_parse_ok {m : Module} (h : f.parse readers = .ok m) (source : String) :
    Discovery.lines readers source false settings (.file f) = [] := by
  simp [Discovery.lines, h]

end Checks

/-- Debug messages are lines of a verbose run only. -/
theorem logLines_of_debug (verbose : Bool) {es : List LogEntry}
    (h : ∀ e ∈ es, e.level = .debug) :
    logLines verbose es = if verbose then es.map LogEntry.line else [] := by
  cases verbose with
  | true => simp [logLines]
  | false =>
    have none_kept : es.filter (fun e => false || e.level = .warning) = [] := by
      rw [List.filter_eq_nil_iff]
      intro e he
      simp [h e he]
    rw [logLines, none_kept]
    rfl

/-- All that is traced is shown only if asked for. -/
theorem TraceEvent.level_logEntry (e : TraceEvent) : e.logEntry.level = .debug := by
  cases e <;> rfl

/-! ## Outcomes -/

namespace Outcome

@[simp] theorem diagnostics_append (a b : Outcome) :
    (a ++ b).diagnostics = a.diagnostics ++ b.diagnostics := rfl

@[simp] theorem filesChecked_append (a b : Outcome) :
    (a ++ b).filesChecked = a.filesChecked + b.filesChecked := rfl

@[simp] theorem hasFailed_append (a b : Outcome) :
    (a ++ b).hasFailed = (a.hasFailed || b.hasFailed) := rfl

@[simp] theorem errorLines_append (a b : Outcome) :
    (a ++ b).errorLines = a.errorLines ++ b.errorLines := rfl

attribute [ext] Outcome

/-- Outcomes are put together in any grouping. -/
theorem append_assoc (a b c : Outcome) : a ++ b ++ c = a ++ (b ++ c) := by
  ext1 <;> simp [List.append_assoc, Nat.add_assoc, Bool.or_assoc]

theorem empty_append (a : Outcome) : empty ++ a = a := by
  ext1 <;> simp [empty]

/-- The outcome is what some discoveries come to. -/
structure AccountsFor (o : Outcome) (readers : Readers) (source : String) (verbose : Bool)
    (settings : Settings) (ds : List Discovery) : Prop where
  diagnostics : o.diagnostics = (gapsByFile readers settings (ds.filterMap Discovery.file?)).flatten
  filesChecked : o.filesChecked = (gapsByFile readers settings (ds.filterMap Discovery.file?)).length
  hasFailed : o.hasFailed = true ↔ AnyFails readers settings (ds.filterMap Discovery.file?)
  errorLines : o.errorLines = ds.flatMap (Discovery.lines readers source verbose settings)

variable {readers : Readers} {source : String} {verbose : Bool} {settings : Settings}

theorem accountsFor_empty : empty.AccountsFor readers source verbose settings [] where
  diagnostics := rfl
  filesChecked := rfl
  hasFailed := by simp [empty, AnyFails]
  errorLines := rfl

/-- The outcome of some discoveries and then of others accounts for all of them. -/
theorem AccountsFor.append {a b : Outcome} {ds es : List Discovery}
    (ha : a.AccountsFor readers source verbose settings ds)
    (hb : b.AccountsFor readers source verbose settings es) :
    (a ++ b).AccountsFor readers source verbose settings (ds ++ es) where
  diagnostics := by simp [ha.diagnostics, hb.diagnostics, gapsByFile]
  filesChecked := by simp [ha.filesChecked, hb.filesChecked, gapsByFile]
  hasFailed := by
    rw [hasFailed_append, Bool.or_eq_true, ha.hasFailed, hb.hasFailed, List.filterMap_append]
    simp only [AnyFails, List.mem_append, or_and_right, exists_or]
  errorLines := by simp [ha.errorLines, hb.errorLines]

end Outcome

section Loop

variable (readers : Readers) (source : String) (verbose : Bool) (settings : Settings)

/-- The step of the loop: a file that fails adds its complaint and nothing else. -/
theorem accountsFor_discoveryOutcome (d : Discovery) :
    (discoveryOutcome readers source verbose settings d).AccountsFor readers source verbose settings
      [d] := by
  cases d with
  | missing path =>
    constructor
    · rfl
    · rfl
    · simp [discoveryOutcome, Discovery.file?, AnyFails]
    · simp [discoveryOutcome, Discovery.lines, logLines]
  | file f =>
    have found : [Discovery.file f].filterMap Discovery.file? = [f] := rfl
    cases hparse : f.parse readers with
    | ok m =>
      have check : checkFile readers settings f = .ok (analyze settings (some f.path) (.module m)) :=
        checkFile_of_parse_ok hparse
      have debug : ∀ e ∈ (traceOf settings f.path (.module m)).map TraceEvent.logEntry,
          e.level = .debug := by simp [TraceEvent.level_logEntry]
      rw [discoveryOutcome, fileOutcome, hparse]
      constructor
      · rw [found, gapsByFile_of_ok check, List.flatten_singleton]
      · rw [found, gapsByFile_of_ok check, List.length_singleton]
      · simp [found, AnyFails, check]
      · simp [Discovery.lines, hparse, logLines_of_debug _ debug, Function.comp_def]
    | error fault =>
      have check : checkFile readers settings f = .error fault := checkFile_of_parse_error hparse
      rw [discoveryOutcome, fileOutcome, hparse]
      constructor
      · rw [found, gapsByFile_of_error check, List.flatten_nil]
      · rw [found, gapsByFile_of_error check, List.length_nil]
      · simp [found, AnyFails, check]
      · simp [Discovery.lines, hparse]

/-- The loop over all discoveries. -/
theorem accountsFor_foldr (ds : List Discovery) :
    (ds.foldr (fun d rest => discoveryOutcome readers source verbose settings d ++ rest)
      .empty).AccountsFor readers source verbose settings ds := by
  induction ds with
  | nil => exact Outcome.accountsFor_empty
  | cons d ds ih => exact (accountsFor_discoveryOutcome readers source verbose settings d).append ih

end Loop

/-! ## All files of a run -/

section Files

variable (readers : Readers) (files : FileSystem) (settings : Settings) (paths : List String)

/-- The gaps of the files that do not fail, in the order of discovery. -/
def reportedGaps : List Diagnostic :=
  (gapsByFile readers settings (sourceFiles files settings paths)).flatten

/-- The number of files that do not fail. -/
def checkedCount : Nat :=
  (gapsByFile readers settings (sourceFiles files settings paths)).length

/-- Some file of the run fails. -/
def SomeFails : Prop :=
  AnyFails readers settings (sourceFiles files settings paths)

/-- A run as a whole accounts for what it discovers. -/
theorem accountsFor_checkAll (source : String) (verbose : Bool) :
    (checkAll readers source verbose settings files paths).AccountsFor readers source verbose
      settings (discover files settings paths) :=
  accountsFor_foldr readers source verbose settings (discover files settings paths)

end Files

theorem foldr_outcome_append (readers : Readers) (source : String) (verbose : Bool)
    (settings : Settings) (ds : List Discovery) (o : Outcome) :
    ds.foldr (fun d rest => discoveryOutcome readers source verbose settings d ++ rest) o =
      ds.foldr (fun d rest => discoveryOutcome readers source verbose settings d ++ rest) .empty
        ++ o := by
  induction ds with
  | nil => exact (Outcome.empty_append o).symm
  | cons d ds ih => rw [List.foldr_cons, ih, List.foldr_cons, Outcome.append_assoc]

/-- The outcome over two lists of paths is the outcomes over each, one after the
other. -/
theorem checkAll_append (readers : Readers) (source : String) (verbose : Bool)
    (settings : Settings) (files : FileSystem) (p q : List String) :
    checkAll readers source verbose settings files (p ++ q) =
      checkAll readers source verbose settings files p ++
        checkAll readers source verbose settings files q := by
  rw [checkAll, discover, List.flatMap_append, List.foldr_append, foldr_outcome_append]
  rfl

section Gaps

variable {readers : Readers} {files : FileSystem} {settings : Settings}

/-- What is reported for two lists of paths is what is reported for each. -/
theorem reportedGaps_append (p q : List String) :
    reportedGaps readers files settings (p ++ q) =
      reportedGaps readers files settings p ++ reportedGaps readers files settings q := by
  simp [reportedGaps, sourceFiles, discover, gapsByFile]

theorem exists_mem_checkFile {paths : List String} {d : Diagnostic}
    (h : d ∈ reportedGaps readers files settings paths) :
    ∃ f ∈ sourceFiles files settings paths, ∃ ds,
      checkFile readers settings f = .ok ds ∧ d ∈ ds := by
  obtain ⟨ds, hds, hd⟩ := List.mem_flatten.1 h
  obtain ⟨f, hf, hsome⟩ := List.mem_filterMap.1 hds
  cases hcheck : checkFile readers settings f with
  | ok es =>
    rw [hcheck] at hsome
    obtain rfl : es = ds := Option.some.inj hsome
    exact ⟨f, hf, es, hcheck, hd⟩
  | error fault =>
    rw [hcheck] at hsome
    cases hsome

/-- Whatever a run reports is a gap in the tree of some file. -/
theorem exists_mem_analyze {paths : List String} {d : Diagnostic}
    (h : d ∈ reportedGaps readers files settings paths) :
    ∃ path? root, d ∈ analyze settings path? root := by
  obtain ⟨f, -, ds, hcheck, hd⟩ := exists_mem_checkFile h
  cases hparse : f.parse readers with
  | ok m =>
    rw [checkFile_of_parse_ok hparse] at hcheck
    obtain rfl := Except.ok.inj hcheck
    exact ⟨some f.path, .module m, hd⟩
  | error fault =>
    rw [checkFile_of_parse_error hparse] at hcheck
    cases hcheck

/-- Every gap has the severity of the settings. -/
theorem severity_of_mem_analyze {path? : Option String} {root : Node} {d : Diagnostic}
    (h : d ∈ analyze settings path? root) : d.severity = settings.severity := by
  rw [analyze] at h
  split at h
  · obtain ⟨site, -, hd⟩ := List.mem_flatMap.1 h
    obtain ⟨thunk, -, reports⟩ := uncovered_of_mem_gaps hd
    exact reports.severity_eq
  · cases h

/-- All gaps of a run have the severity of its settings. -/
theorem severity_of_mem_reportedGaps {paths : List String} {d : Diagnostic}
    (h : d ∈ reportedGaps readers files settings paths) : d.severity = settings.severity := by
  obtain ⟨path?, root, hd⟩ := exists_mem_analyze h
  exact severity_of_mem_analyze hd

/-- Nothing is reported if the check is switched off. -/
theorem reportedGaps_of_disabled {paths : List String} (h : ¬settings.enabled = true) :
    reportedGaps readers files settings paths = [] := by
  rw [List.eq_nil_iff_forall_not_mem]
  intro d hd
  obtain ⟨path?, root, hd⟩ := exists_mem_analyze hd
  simp [analyze, h] at hd

end Gaps

/-! ## Exit codes -/

theorem exitCode_le_two (strict : Bool) (o : Outcome) : exitCode strict o ≤ 2 := by
  rw [exitCode]
  split
  · exact Nat.le_refl 2
  · split <;> decide

/-- The code is 2 exactly if some file fails. -/
theorem exitCode_eq_two_iff {strict : Bool} {o : Outcome} :
    exitCode strict o = 2 ↔ o.hasFailed = true := by
  rw [exitCode]
  split
  · simp [*]
  · split <;> simp [*]

/-- The code is 1 exactly if no file fails, the run is strict and some gap is an error. -/
theorem exitCode_eq_one_iff {strict : Bool} {o : Outcome} :
    exitCode strict o = 1 ↔
      ¬o.hasFailed = true ∧ strict = true ∧ ∃ d ∈ o.diagnostics, d.severity = .error := by
  rw [exitCode]
  split
  · simp [*]
  · simp [*]

/-- The code of two outcomes is the graver of their codes. -/
theorem exitCode_append (strict : Bool) (a b : Outcome) :
    exitCode strict (a ++ b) = max (exitCode strict a) (exitCode strict b) := by
  simp only [exitCode, Outcome.hasFailed_append, Outcome.diagnostics_append, List.any_append]
  cases a.hasFailed <;> cases b.hasFailed <;> cases strict <;>
    cases a.diagnostics.any (fun d => d.severity = .error) <;>
      cases b.diagnostics.any (fun d => d.severity = .error) <;> rfl

/-! ## The settings of a run -/

/-- The options change the settings of a file in two ways: they may name another
severity, and they may switch the check off. -/
structure Options.Adjusts (options : Options) (loaded settings : Settings) : Prop where
  enabled_iff : settings.enabled = true ↔ loaded.enabled = true ∧ options.disable = false
  unnamed : options.severity? ∈ [none, some ""] → settings.severity = loaded.severity
  named : ∀ label, options.severity? = some label → label ≠ "" →
    (Value.text label).NamesSeverity settings.severity
  includes_eq : settings.includes = loaded.includes
  excludes_eq : settings.excludes = loaded.excludes

/-- A run works with settings that were loaded and adjusted. -/
def RunsUnder (readers : Readers) (files : FileSystem) (options : Options) (settings : Settings) :
    Prop :=
  ∃ loaded, loadSettings readers.load files options.config? = .ok loaded ∧
    options.Adjusts loaded.settings settings

/-- A run has no settings to work with: they cannot be loaded, or the severity
that the options name is none. -/
def SettingsFail (readers : Readers) (files : FileSystem) (options : Options) : Prop :=
  (∃ fault, loadSettings readers.load files options.config? = .error fault) ∨
    ∃ label, options.severity? = some label ∧ label ≠ "" ∧
      ∀ s, ¬(Value.text label).NamesSeverity s

/-- What is left to the options once settings are loaded. -/
inductive Options.Overrides (options : Options) (loaded : LoadedSettings) :
    Except LoadFault Settings → Prop
  | adjusted (settings : Settings) (adjusts : options.Adjusts loaded.settings settings) :
      Overrides options loaded (.ok settings)
  | refused (label : String) (given : options.severity? = some label) (some : label ≠ "")
      (none : ∀ s, ¬(Value.text label).NamesSeverity s) :
      Overrides options loaded (.error (.badSettings (.badSeverity (.text label))))

theorem Severity.ofValue?_text (label : String) :
    (∃ severity, Severity.ofValue? (.text label) = .ok severity) ∨
      Severity.ofValue? (.text label) = .error (.badSeverity (.text label)) := by
  have shown : (Value.text label).isShowable = true := rfl
  rw [Severity.ofValue?, shown]
  split
  · contradiction
  · split
    · next severity _ => exact .inl ⟨severity, rfl⟩
    · exact .inr rfl

/-- The settings that take effect are the loaded ones as the options adjust them. -/
theorem Options.overrides (options : Options) (loaded : LoadedSettings) :
    options.Overrides loaded (effectiveSettings options loaded) := by
  have enabled : (loaded.settings.enabled && !options.disable) = true ↔
      loaded.settings.enabled = true ∧ options.disable = false := by simp
  rw [effectiveSettings]
  split
  · next label given =>
    split
    · next empty =>
      refine .adjusted _ ⟨enabled, fun _ => rfl, ?_, rfl, rfl⟩
      intro other hother
      obtain rfl := Option.some.inj (given.symm.trans hother)
      exact absurd empty
    · next nonempty =>
      obtain ⟨severity, h⟩ | h := Severity.ofValue?_text label
      · rw [h]
        refine .adjusted _ ⟨enabled, ?_, ?_, rfl, rfl⟩
        · intro unnamed
          simp [given, nonempty] at unnamed
        · intro other hother _
          obtain rfl := Option.some.inj (given.symm.trans hother)
          exact Severity.ofValue?_eq_ok_iff.1 h
      · rw [h]
        refine .refused label given nonempty ?_
        intro s names
        cases h.symm.trans (Severity.ofValue?_eq_ok_iff.2 names)
  · next given =>
    refine .adjusted _ ⟨enabled, fun _ => rfl, ?_, rfl, rfl⟩
    intro label hlabel
    cases given.symm.trans hlabel

/-- Settings can be adjusted in one way only. -/
theorem Options.Adjusts.unique {options : Options} {loaded s t : Settings}
    (hs : options.Adjusts loaded s) (ht : options.Adjusts loaded t) : s = t := by
  have severity : s.severity = t.severity := by
    by_cases unnamed : options.severity? ∈ [none, some ""]
    · rw [hs.unnamed unnamed, ht.unnamed unnamed]
    · obtain ⟨label, given, nonempty⟩ : ∃ label, options.severity? = some label ∧ label ≠ "" := by
        cases given : options.severity? with
        | none => simp [given] at unnamed
        | some label => exact ⟨label, rfl, fun h => unnamed (by simp [given, h])⟩
      exact (hs.named label given nonempty).unique (ht.named label given nonempty)
  have enabled : s.enabled = t.enabled :=
    Bool.eq_iff_iff.2 (hs.enabled_iff.trans ht.enabled_iff.symm)
  have includes := hs.includes_eq.trans ht.includes_eq.symm
  have excludes := hs.excludes_eq.trans ht.excludes_eq.symm
  cases s
  cases t
  simp_all

/-- What a run has for settings. -/
def runSettings (readers : Readers) (files : FileSystem) (options : Options) :
    Except LoadFault Settings := do
  effectiveSettings options (← loadSettings readers.load files options.config?)

/-- All faults in loading have wording for the user. -/
def LoadsWorded (readers : Readers) (files : FileSystem) (options : Options) : Prop :=
  ∀ fault, loadSettings readers.load files options.config? = .error fault →
    fault.message?.isSome = true

section Settings

variable {readers : Readers} {files : FileSystem} {options : Options}

/-- A run has settings exactly if they load and the options can adjust them. -/
theorem runsUnder_iff {settings : Settings} :
    RunsUnder readers files options settings ↔ runSettings readers files options = .ok settings := by
  rw [RunsUnder, runSettings]
  cases loadSettings readers.load files options.config? with
  | error fault => exact iff_of_false (by simp) (by rintro ⟨⟩)
  | ok loaded =>
    show (∃ l, Except.ok loaded = .ok l ∧ options.Adjusts l.settings settings) ↔
      effectiveSettings options loaded = .ok settings
    have h := options.overrides loaded
    constructor
    · rintro ⟨_, ⟨⟩, adjusts⟩
      cases heffective : effectiveSettings options loaded with
      | ok other =>
        rw [heffective] at h
        obtain ⟨_, adjusts'⟩ := h
        rw [adjusts.unique adjusts']
      | error fault =>
        rw [heffective] at h
        obtain ⟨⟩ | ⟨label, given, nonempty, none⟩ := h
        exact absurd (adjusts.named label given nonempty) (none _)
    · intro heffective
      rw [heffective] at h
      obtain ⟨_, adjusts⟩ := h
      exact ⟨loaded, rfl, adjusts⟩

/-- The settings fail if they cannot be loaded or adjusted. -/
theorem settingsFail_iff :
    SettingsFail readers files options ↔ ∃ fault, runSettings readers files options = .error fault := by
  rw [SettingsFail, runSettings]
  cases loadSettings readers.load files options.config? with
  | error fault => exact iff_of_true (.inl ⟨fault, rfl⟩) ⟨fault, rfl⟩
  | ok loaded =>
    show _ ↔ ∃ fault, effectiveSettings options loaded = .error fault
    have h := options.overrides loaded
    constructor
    · rintro (⟨fault, ⟨⟩⟩ | ⟨label, given, nonempty, none⟩)
      cases heffective : effectiveSettings options loaded with
      | ok settings =>
        rw [heffective] at h
        obtain ⟨_, adjusts⟩ := h
        exact absurd (adjusts.named label given nonempty) (none _)
      | error fault => exact ⟨fault, rfl⟩
    · rintro ⟨fault, heffective⟩
      rw [heffective] at h
      obtain ⟨⟩ | ⟨label, given, nonempty, none⟩ := h
      exact .inr ⟨label, given, nonempty, none⟩

/-- There is wording for a severity that is none. -/
theorem LoadsWorded.isSome_message? (worded : LoadsWorded readers files options) {fault : LoadFault}
    (h : runSettings readers files options = .error fault) : fault.message?.isSome = true := by
  rw [runSettings] at h
  cases hload : loadSettings readers.load files options.config? with
  | error other =>
    rw [hload] at h
    obtain rfl := Except.error.inj h
    exact worded _ hload
  | ok loaded =>
    rw [hload] at h
    change effectiveSettings options loaded = .error fault at h
    have hoverrides := options.overrides loaded
    rw [h] at hoverrides
    obtain ⟨⟩ | ⟨label, -, -, -⟩ := hoverrides
    rfl

end Settings

/-! ## Whole runs -/

/-- A run whose lines about the loading of settings are put aside; one that is
not verbose has none. -/
theorem runOptions_eq (readers : Readers) (source : String) (files : FileSystem)
    (options : Options) :
    ∃ before : List String, (options.verbose = false → before = []) ∧
      runOptions readers source files options =
        match runSettings readers files options with
        | .error fault => settingsFailure before fault
        | .ok settings =>
            let o := checkAll readers source options.verbose settings files options.paths
            ⟨report options.format o.diagnostics o.filesChecked, before ++ o.errorLines,
              .code (exitCode options.failOnViolation o)⟩ := by
  rw [runOptions, runSettings]
  cases loadSettings readers.load files options.config? with
  | error fault => exact ⟨[], fun _ => rfl, rfl⟩
  | ok loaded =>
    refine ⟨_, ?_, rfl⟩
    intro quiet
    rw [quiet, logLines_of_debug]
    · rfl
    · intro e he
      obtain ⟨p, -, rfl⟩ := List.mem_map.1 he
      rfl

/-- The run prints what its files come to: the gaps of the files that do not fail
and the number of these files, and on standard error the lines of one file after
the other. -/
structure Result.Accounts (r : Result) (readers : Readers) (source : String) (files : FileSystem)
    (options : Options) (settings : Settings) : Prop where
  output : Prints (reportedGaps readers files settings options.paths)
    (checkedCount readers files settings options.paths) options.format r.output
  errors : ∃ before : List String, (options.verbose = false → before = []) ∧
    r.errors = before ++ (discover files settings options.paths).flatMap
      (Discovery.lines readers source options.verbose settings)

/-- The run has no settings to work with, or some file of it fails. -/
def RunFails (readers : Readers) (files : FileSystem) (options : Options) : Prop :=
  SettingsFail readers files options ∨ ∃ settings, RunsUnder readers files options settings ∧
    SomeFails readers files settings options.paths

/-- The run is to fail on errors, and it reports some. -/
def RunViolates (readers : Readers) (files : FileSystem) (options : Options) : Prop :=
  ∃ settings, RunsUnder readers files options settings ∧ options.failOnViolation = true ∧
    settings.severity = .error ∧ reportedGaps readers files settings options.paths ≠ []

section Runs

variable {readers : Readers} {source : String} {files : FileSystem} {options : Options}

/-- A run whose settings fail prints one error and nothing else. -/
theorem runOptions_of_error {fault : LoadFault}
    (h : runSettings readers files options = .error fault)
    (worded : fault.message?.isSome = true) :
    (runOptions readers source files options).output = [] ∧
      (runOptions readers source files options).ending = .code 2 := by
  obtain ⟨before, -, hrun⟩ := runOptions_eq readers source files options
  obtain ⟨message, hmessage⟩ := Option.isSome_iff_exists.1 worded
  rw [hrun, h]
  simp [settingsFailure, hmessage]

/-- A run with settings accounts for all files and ends with the code of its
outcome. -/
theorem runOptions_of_ok {settings : Settings}
    (h : runSettings readers files options = .ok settings) :
    (runOptions readers source files options).Accounts readers source files options settings ∧
      (runOptions readers source files options).ending = .code (exitCode options.failOnViolation
        (checkAll readers source options.verbose settings files options.paths)) := by
  obtain ⟨before, quiet, hrun⟩ := runOptions_eq readers source files options
  have sums := accountsFor_checkAll readers files settings options.paths source options.verbose
  rw [hrun, h]
  refine ⟨⟨?_, before, quiet, ?_⟩, rfl⟩
  · rw [reportedGaps, checkedCount, sourceFiles, ← sums.diagnostics, ← sums.filesChecked]
    exact prints_report ..
  · rw [← sums.errorLines]

theorem exitCode_checkAll_eq_two_iff {strict verbose : Bool} {settings : Settings}
    {paths : List String} :
    exitCode strict (checkAll readers source verbose settings files paths) = 2 ↔
      SomeFails readers files settings paths := by
  rw [exitCode_eq_two_iff,
    (accountsFor_checkAll readers files settings paths source verbose).hasFailed]
  rfl

/-- All gaps of a run are equally grave, so any one of them tells whether the run
is to fail. -/
theorem exitCode_checkAll_eq_one_iff {strict verbose : Bool} {settings : Settings}
    {paths : List String} :
    exitCode strict (checkAll readers source verbose settings files paths) = 1 ↔
      ¬SomeFails readers files settings paths ∧ strict = true ∧ settings.severity = .error ∧
        reportedGaps readers files settings paths ≠ [] := by
  have sums := accountsFor_checkAll readers files settings paths source verbose
  have grave : (∃ d ∈ reportedGaps readers files settings paths, d.severity = .error) ↔
      settings.severity = .error ∧ reportedGaps readers files settings paths ≠ [] := by
    constructor
    · rintro ⟨d, hd, herror⟩
      exact ⟨severity_of_mem_reportedGaps hd ▸ herror, List.ne_nil_of_mem hd⟩
    · rintro ⟨herror, hne⟩
      obtain ⟨d, hd⟩ := List.exists_mem_of_ne_nil _ hne
      exact ⟨d, hd, (severity_of_mem_reportedGaps hd).trans herror⟩
  rw [exitCode_eq_one_iff, sums.hasFailed, sums.diagnostics, ← grave]
  rfl

/-- A run with nothing to report and no failure ends well. -/
theorem exitCode_checkAll_of_silent {strict verbose : Bool} {settings : Settings}
    {paths : List String} (silent : reportedGaps readers files settings paths = [])
    (passes : ¬SomeFails readers files settings paths) :
    exitCode strict (checkAll readers source verbose settings files paths) = 0 := by
  have le_two := exitCode_le_two strict (checkAll readers source verbose settings files paths)
  have ne_two : exitCode strict (checkAll readers source verbose settings files paths) ≠ 2 :=
    mt exitCode_checkAll_eq_two_iff.1 passes
  have ne_one : exitCode strict (checkAll readers source verbose settings files paths) ≠ 1 :=
    fun h => (exitCode_checkAll_eq_one_iff.1 h).2.2.2 silent
  omega

/-- A report in JSON is the list of the records of all gaps. -/
theorem printsList_runOptions {settings : Settings}
    (h : RunsUnder readers files options settings) (json : options.format = .json) :
    PrintsList (runOptions readers source files options).output
      ((reportedGaps readers files settings options.paths).map Diagnostic.record) := by
  have accounts : (runOptions readers source files options).Accounts readers source files options
      settings := (runOptions_of_ok (runsUnder_iff.1 h)).1
  have prints := accounts.output
  rw [json] at prints
  obtain ⟨items⟩ := prints
  exact items

/-- With settings, only a file can fail. -/
theorem runFails_iff {settings : Settings} (h : RunsUnder readers files options settings) :
    RunFails readers files options ↔ SomeFails readers files settings options.paths := by
  simp [RunFails, settingsFail_iff, runsUnder_iff, runsUnder_iff.1 h]

theorem runViolates_iff {settings : Settings} (h : RunsUnder readers files options settings) :
    RunViolates readers files options ↔ options.failOnViolation = true ∧
      settings.severity = .error ∧ reportedGaps readers files settings options.paths ≠ [] := by
  simp [RunViolates, runsUnder_iff, runsUnder_iff.1 h]

/-- The code of a run: a failure counts for more than a violation. -/
theorem ending_runOptions (worded : LoadsWorded readers files options) :
    ∃ n ≤ 2, (runOptions readers source files options).ending = .code n ∧
      (n = 2 ↔ RunFails readers files options) ∧
      (n = 1 ↔ ¬RunFails readers files options ∧ RunViolates readers files options) := by
  cases h : runSettings readers files options with
  | error fault =>
    have fails : RunFails readers files options := .inl (settingsFail_iff.2 ⟨fault, h⟩)
    refine ⟨2, Nat.le_refl 2, (runOptions_of_error h (worded.isSome_message? h)).2, ?_, ?_⟩
    · exact iff_of_true rfl fails
    · exact iff_of_false (by decide) fun hv => hv.1 fails
  | ok settings =>
    have works := runsUnder_iff.2 h
    refine ⟨_, exitCode_le_two _ _, (runOptions_of_ok h).2, ?_, ?_⟩
    · rw [runFails_iff works, exitCode_checkAll_eq_two_iff]
    · rw [runFails_iff works, runViolates_iff works, exitCode_checkAll_eq_one_iff]

/-- The code over two lists of paths is the graver of the codes over each. -/
theorem ending_runOptions_append (worded : LoadsWorded readers files options)
    (p q : List String) :
    ∃ m n, (runOptions readers source files { options with paths := p }).ending = .code m ∧
      (runOptions readers source files { options with paths := q }).ending = .code n ∧
      (runOptions readers source files { options with paths := p ++ q }).ending =
        .code (max m n) := by
  -- The settings do not depend on the paths.
  have same : ∀ paths, runSettings readers files { options with paths } =
      runSettings readers files options := fun _ => rfl
  cases h : runSettings readers files options with
  | error fault =>
    have ends : ∀ paths, (runOptions readers source files { options with paths }).ending =
        .code 2 :=
      fun paths => (runOptions_of_error ((same paths).trans h) (worded.isSome_message? h)).2
    exact ⟨2, 2, ends p, ends q, ends (p ++ q)⟩
  | ok settings =>
    have ends : ∀ paths, (runOptions readers source files { options with paths }).ending =
        .code (exitCode options.failOnViolation
          (checkAll readers source options.verbose settings files paths)) :=
      fun paths => (runOptions_of_ok ((same paths).trans h)).2
    refine ⟨_, _, ends p, ends q, ?_⟩
    rw [ends (p ++ q), checkAll_append, exitCode_append]

/-- The list over two lists of paths is the lists over each, one after the
other. -/
theorem printsList_runOptions_append {settings : Settings}
    (h : RunsUnder readers files options settings) (json : options.format = .json)
    (p q : List String) :
    ∃ before after,
      PrintsList (runOptions readers source files { options with paths := p }).output before ∧
      PrintsList (runOptions readers source files { options with paths := q }).output after ∧
      PrintsList (runOptions readers source files { options with paths := p ++ q }).output
        (before ++ after) := by
  -- The settings do not depend on the paths.
  have loads := runsUnder_iff.1 h
  have same (paths : List String) : RunsUnder readers files { options with paths } settings :=
    runsUnder_iff.2 loads
  have prints (paths : List String) :
      PrintsList (runOptions readers source files { options with paths }).output
        ((reportedGaps readers files settings paths).map Diagnostic.record) :=
    printsList_runOptions (same paths) json
  refine ⟨_, _, prints p, prints q, ?_⟩
  rw [← List.map_append, ← reportedGaps_append]
  exact prints (p ++ q)

/-- A run that is disabled reports nothing, and only a file that fails gives it
another code than 0. -/
theorem runOptions_of_disabled {settings : Settings}
    (h : RunsUnder readers files options settings) (disabled : ¬settings.enabled = true) :
    reportedGaps readers files settings options.paths = [] ∧
      (¬SomeFails readers files settings options.paths →
        (runOptions readers source files options).ending = .code 0) := by
  have silent : reportedGaps readers files settings options.paths = [] :=
    reportedGaps_of_disabled disabled
  refine ⟨silent, fun passes => ?_⟩
  rw [(runOptions_of_ok (runsUnder_iff.1 h)).2, exitCode_checkAll_of_silent silent passes]

end Runs

/-- A run reports the gaps of exactly the files that do not fail, in the order of
discovery, and counts those files; a file that fails adds one line of complaint.
The code is 2 if the settings or some file fails, else 1 if the run is to fail on
errors and reports some, and else 0.  So a run over two lists of paths has the
graver code of the two and lists the gaps of one after those of the other, and a
run that is disabled reports nothing. -/
theorem run_isolates_and_composes (readers : Readers) (source : String) (files : FileSystem)
    (options : Options) (worded : LoadsWorded readers files options) :
    (∀ settings, RunsUnder readers files options settings →
      (runOptions readers source files options).Accounts readers source files options settings) ∧
    (∃ n ≤ 2, (runOptions readers source files options).ending = .code n ∧
      (n = 2 ↔ RunFails readers files options) ∧
      (n = 1 ↔ ¬RunFails readers files options ∧ RunViolates readers files options)) ∧
    (∀ p q : List String, ∃ m n,
      (runOptions readers source files { options with paths := p }).ending = .code m ∧
      (runOptions readers source files { options with paths := q }).ending = .code n ∧
      (runOptions readers source files { options with paths := p ++ q }).ending =
        .code (max m n)) ∧
    (∀ settings, RunsUnder readers files options settings → options.format = .json →
      ∀ p q : List String, ∃ before after,
        PrintsList (runOptions readers source files { options with paths := p }).output before ∧
        PrintsList (runOptions readers source files { options with paths := q }).output after ∧
        PrintsList (runOptions readers source files { options with paths := p ++ q }).output
          (before ++ after)) ∧
    (∀ loaded settings, loadSettings readers.load files options.config? = .ok loaded →
      options.Adjusts loaded.settings settings →
      options.disable = true ∨ loaded.settings.enabled = false →
        reportedGaps readers files settings options.paths = [] ∧
        (¬SomeFails readers files settings options.paths →
          (runOptions readers source files options).ending = .code 0)) := by
  refine ⟨fun settings h => (runOptions_of_ok (runsUnder_iff.1 h)).1, ending_runOptions worded,
    ending_runOptions_append worded, fun settings h json => printsList_runOptions_append h json, ?_⟩
  intro loaded settings hloaded adjusts off
  refine runOptions_of_disabled ⟨loaded, hloaded, adjusts⟩ ?_
  rw [adjusts.enabled_iff]
  rcases off with off | off <;> simp [off]

/-! ### A file that cannot be opened beside one with a gap -/

/-- A module with one machine, whose thunk returns one of two declared states. -/
def machineText : String :=
  "StateMachine(\x7b\"config\": \x7b\"idle\": \x7b\"on\": \x7b\"go\": [\"a\", \"b\"]\x7d\x7d\x7d,\n"
    ++ "\"commands\": \x7b\"idle\": \x7b\"go\": lambda: "
    ++ "\x7b\"execute\": lambda: \x7b\"id\": \"a\"\x7d\x7d\x7d\x7d\x7d)\n"

/-- The module as a file. -/
def machineFile : FoundFile :=
  ⟨"machine.py", .ok (machineText.toList.map fun c => UInt8.ofNat c.toNat)⟩

/-- A file that cannot be opened. -/
def lockedFile : FoundFile := ⟨"locked.py", .error "Permission denied"⟩

/-- A folder with the two files. -/
def lockedFiles : FileSystem where
  find path :=
    if path = "locked.py" then .ok (.file lockedFile.content)
    else if path = "machine.py" then .ok (.file machineFile.content)
    else .error .notFound

/-- The options of a run over given paths that fails on errors, with a report in
JSON. -/
def strictOptions (severity? : Option String) (paths : List String) : Options :=
  ⟨paths, none, severity?, false, .json, true, false⟩

/-- The gap of the machine. -/
def machineGap : Diagnostic where
  kind := .alwaysSameState
  state := "idle"
  message := "go"
  declared := ["a", "b"]
  observed := ["a"]
  location := ⟨2, 48, some 2, some 67⟩
  path? := some "machine.py"
  severity := .error
  observed_ne_nil := by decide
  observed_lt_declared := by decide

/-- The gap as it is reported. -/
def machineRecord : Text.Json :=
  .object [
    ("rule", .text "state-machine-union-return"),
    ("kind", .text "ALWAYS_SAME_STATE"),
    ("severity", .text "error"),
    ("path", .text "machine.py"),
    ("line", .int 2),
    ("column", .int 48),
    ("state", .text "idle"),
    ("message_name", .text "go"),
    ("declared_count", .int 2),
    ("declared_states", .list [.text "a", .text "b"]),
    ("observed_states", .list [.text "a"]),
    ("message", .text ("The \"go\" message declares 2 possible target states [a, b], but "
      ++ "your implementation always returns \"a\". If only one state is possible, update the "
      ++ "config to reflect this."))]

theorem record_machineGap : machineGap.record = machineRecord := by
  have sentence : machineGap.sentence =
      "The \"go\" message declares 2 possible target states [a, b], but "
        ++ "your implementation always returns \"a\". If only one state is possible, update the "
        ++ "config to reflect this." := by
    decide +kernel
  rw [Diagnostic.record, sentence]
  rfl

/-- The machine has one gap, found by parsing and checking the text. -/
theorem checkFile_machineFile : checkFile .standard .standard machineFile = .ok [machineGap] := by
  have checks : (checkFile .standard .standard machineFile).toOption = some [machineGap] := by
    decide +kernel
  cases h : checkFile .standard .standard machineFile with
  | ok ds =>
    rw [h] at checks
    rw [Option.some.inj checks]
  | error fault =>
    rw [h] at checks
    cases checks

theorem exists_parse_machineFile : ∃ m, machineFile.parse .standard = .ok m := by
  cases h : machineFile.parse .standard with
  | ok m => exact ⟨m, rfl⟩
  | error fault => cases checkFile_machineFile.symm.trans (checkFile_of_parse_error h)

theorem discover_lockedFiles (settings : Settings) :
    discover lockedFiles settings ["locked.py", "machine.py"] =
      [.file lockedFile, .file machineFile] := rfl

theorem checkFile_lockedFile (settings : Settings) :
    checkFile .standard settings lockedFile = .error (.unreadable "Permission denied") := rfl

/-- The gap is reported with the locked file and without it. -/
theorem reportedGaps_lockedFiles :
    reportedGaps .standard lockedFiles .standard ["locked.py", "machine.py"] = [machineGap] ∧
      reportedGaps .standard lockedFiles .standard ["machine.py"] = [machineGap] := by
  have locked := gapsByFile_of_error (checkFile_lockedFile .standard)
  have machine := gapsByFile_of_ok checkFile_machineFile
  constructor
  · show (gapsByFile .standard .standard ([lockedFile] ++ [machineFile])).flatten = _
    rw [gapsByFile, List.filterMap_append, ← gapsByFile, ← gapsByFile, locked, machine]
    rfl
  · show (gapsByFile .standard .standard [machineFile]).flatten = _
    rw [machine]
    rfl

theorem loadSettings_lockedFiles :
    loadSettings Readers.standard.load lockedFiles none = .ok ⟨.standard, none⟩ := rfl

theorem adjusts_unnamed (paths : List String) :
    (strictOptions none paths).Adjusts .standard .standard where
  enabled_iff := by simp [strictOptions, Settings.standard]
  unnamed _ := rfl
  named _ h := by cases h
  includes_eq := rfl
  excludes_eq := rfl

theorem adjusts_warning (paths : List String) :
    (strictOptions (some "Warning") paths).Adjusts .standard ⟨true, .warning, ["*.py"], []⟩ where
  enabled_iff := by simp [strictOptions, Settings.standard]
  unnamed h := by simp [strictOptions] at h
  named label h _ := by
    obtain rfl := Option.some.inj h
    exact .warning (by decide)
  includes_eq := rfl
  excludes_eq := rfl

/-- A run over both files reports the gap and ends with 2, for the file that
cannot be opened.  Over the machine alone it ends with 1, and with 0 if the gap
is to be a warning. -/
theorem run_isolates_and_composes_locked :
    LoadsWorded .standard lockedFiles (strictOptions none ["locked.py", "machine.py"]) ∧
    (PrintsList (runOptions .standard "check" lockedFiles
        (strictOptions none ["locked.py", "machine.py"])).output [machineRecord] ∧
      (runOptions .standard "check" lockedFiles
        (strictOptions none ["locked.py", "machine.py"])).errors =
          ["ERROR: Could not parse locked.py: Permission denied"] ∧
      (runOptions .standard "check" lockedFiles
        (strictOptions none ["locked.py", "machine.py"])).ending = .code 2) ∧
    (runOptions .standard "check" lockedFiles (strictOptions none ["machine.py"])).ending =
      .code 1 ∧
    (runOptions .standard "check" lockedFiles
      (strictOptions (some "Warning") ["machine.py"])).ending = .code 0 := by
  have worded (severity? : Option String) (paths : List String) :
      LoadsWorded .standard lockedFiles (strictOptions severity? paths) := by
    intro fault h
    cases loadSettings_lockedFiles.symm.trans h
  have works (paths : List String) :
      RunsUnder .standard lockedFiles (strictOptions none paths) .standard :=
    ⟨_, loadSettings_lockedFiles, adjusts_unnamed paths⟩
  obtain ⟨m, parses⟩ := exists_parse_machineFile
  have passes (settings : Settings) : ¬SomeFails .standard lockedFiles settings ["machine.py"] := by
    rintro ⟨f, hf, fault, h⟩
    obtain rfl := List.mem_singleton.1 hf
    cases (checkFile_of_parse_ok parses).symm.trans h
  refine ⟨worded _ _, ?_, ?_, ?_⟩
  · obtain ⟨accounts, ⟨n, -, ends, two_iff, -⟩, -⟩ := run_isolates_and_composes .standard "check"
      lockedFiles (strictOptions none ["locked.py", "machine.py"]) (worded _ _)
    obtain ⟨output, before, quiet, errors⟩ := accounts _ (works _)
    refine ⟨?_, ?_, ?_⟩
    · obtain ⟨items⟩ := output
      rw [← record_machineGap, ← List.map_singleton, ← reportedGaps_lockedFiles.1]
      exact items
    · rw [errors, quiet rfl, List.nil_append]
      show (discover lockedFiles .standard ["locked.py", "machine.py"]).flatMap
        (Discovery.lines .standard "check" false .standard) = _
      rw [discover_lockedFiles, List.flatMap_cons, List.flatMap_singleton,
        Discovery.lines_of_parse_ok parses]
      rfl
    · have fails : SomeFails .standard lockedFiles .standard ["locked.py", "machine.py"] :=
        ⟨lockedFile, List.mem_cons_self, _, checkFile_lockedFile .standard⟩
      rw [ends, two_iff.2 ((runFails_iff (works _)).2 fails)]
  · obtain ⟨-, ⟨n, -, ends, -, one_iff⟩, -⟩ := run_isolates_and_composes .standard "check"
      lockedFiles (strictOptions none ["machine.py"]) (worded _ _)
    have violates : RunViolates .standard lockedFiles (strictOptions none ["machine.py"]) :=
      (runViolates_iff (works _)).2 ⟨rfl, rfl, reportedGaps_lockedFiles.2 ▸ List.cons_ne_nil _ _⟩
    rw [ends, one_iff.2 ⟨mt (runFails_iff (works _)).1 (passes _), violates⟩]
  · obtain ⟨-, ⟨n, le_two, ends, two_iff, one_iff⟩, -⟩ := run_isolates_and_composes .standard
      "check" lockedFiles (strictOptions (some "Warning") ["machine.py"]) (worded _ _)
    have warns : RunsUnder .standard lockedFiles (strictOptions (some "Warning") ["machine.py"])
        ⟨true, .warning, ["*.py"], []⟩ := ⟨_, loadSettings_lockedFiles, adjusts_warning _⟩
    have ne_two : n ≠ 2 := fun h => passes _ ((runFails_iff warns).1 (two_iff.1 h))
    have ne_one : n ≠ 1 := by
      intro h
      cases ((runViolates_iff warns).1 (one_iff.1 h).2).2.1
    rw [ends, show n = 0 by omega]

end StateCoverage
