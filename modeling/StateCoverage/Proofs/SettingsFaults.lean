import StateCoverage.Proofs.Runs
import StateCoverage.Proofs.Sites

/-!
# Settings files that no run is prepared for

A settings file that cannot be used should end a run with a complaint and the
code 2.  Most do.  The exceptions are listed here, and the list is complete for
every reader of YAML that copes with all text: a file that is there but cannot
be opened, bytes that are no text, a key that is no text, and a number that is
too long for the complaint that it stands in.

* `Unanswered` — a failure without wording for the user.
* `YamlReader.ReadsText` — what is asked of the reader.
* `unanswered_ofEntries?_iff`, `unanswered_settingsAt_iff` — when the entries of
  a mapping, and the file at a path, lead to such a failure.
* `settings_answered_iff` — loading settings has an answer except then.
-/

namespace StateCoverage

/-! ## Failures without wording -/

/-- The computation fails in a way that there is no wording for. -/
def Unanswered {ε α : Type} (message? : ε → Option String) (x : Except ε α) : Prop :=
  ∃ fault, x = .error fault ∧ message? fault = none

/-- The computation succeeds, or fails with wording for the user. -/
def Answered {ε α : Type} (message? : ε → Option String) (x : Except ε α) : Prop :=
  (∃ a, x = .ok a) ∨ ∃ fault message, x = .error fault ∧ message? fault = some message

section Unanswered

variable {ε δ α β : Type} {message? : ε → Option String}

@[simp] theorem not_unanswered_ok (a : α) : ¬Unanswered message? (.ok a : Except ε α) := by
  rintro ⟨fault, h, -⟩
  cases h

@[simp] theorem unanswered_error {fault : ε} :
    Unanswered message? (.error fault : Except ε α) ↔ message? fault = none := by
  constructor
  · rintro ⟨_, ⟨⟩, h⟩
    exact h
  · intro h
    exact ⟨fault, rfl, h⟩

/-- A computation has an answer or it fails without wording. -/
theorem answered_iff {x : Except ε α} : Answered message? x ↔ ¬Unanswered message? x := by
  cases x with
  | ok a => exact iff_of_true (.inl ⟨a, rfl⟩) (not_unanswered_ok a)
  | error fault => simp [Answered, ← Option.ne_none_iff_exists']

/-- A computation in two steps has no answer if the first step has none, or
succeeds and leads to a second step that has none. -/
theorem unanswered_bind {x : Except ε α} {f : α → Except ε β} :
    Unanswered message? (x >>= f) ↔
      Unanswered message? x ∨ ∃ a, x = .ok a ∧ Unanswered message? (f a) := by
  cases x with
  | ok a =>
    constructor
    · intro h
      exact .inr ⟨a, rfl, h⟩
    · rintro (h | ⟨_, ⟨⟩, h⟩)
      · exact absurd h (not_unanswered_ok a)
      · exact h
  | error fault =>
    constructor
    · rintro ⟨_, ⟨⟩, h⟩
      exact .inl ⟨fault, rfl, h⟩
    · rintro (⟨_, ⟨⟩, h⟩ | ⟨_, h, -⟩)
      · exact ⟨fault, rfl, h⟩
      · cases h

theorem unanswered_bind_pure {x : Except ε α} (g : α → β) :
    Unanswered message? (x >>= fun a => pure (g a)) ↔ Unanswered message? x := by
  rw [unanswered_bind]
  refine or_iff_left ?_
  rintro ⟨a, -, h⟩
  exact not_unanswered_ok (g a) h

/-- A fault inside another has the wording of the outer one. -/
theorem unanswered_mapError {wrap : δ → ε} {x : Except δ α} :
    Unanswered message? (x.mapError wrap) ↔ Unanswered (message? ∘ wrap) x := by
  cases x with
  | ok a => exact iff_of_false (not_unanswered_ok a) (not_unanswered_ok a)
  | error fault =>
    rw [unanswered_error]
    exact unanswered_error

end Unanswered

/-! ## The entries of a mapping -/

/-- Every key means something. -/
def SettingsEntries.KeysKnown (entries : SettingsEntries) : Prop :=
  ∀ e ∈ entries, ∃ key ∈ settingsKeys, e.1.text? = some key

/-- The entries that no complaint can be made about though they describe no
settings. -/
inductive SettingsEntries.Unforeseen (entries : SettingsEntries) : Prop
  /-- Some key is no text. -/
  | key (e : Value × Thunk Value) (mem : e ∈ entries) (other : e.1.text? = none)
  /-- The complaint about `enabled` would show a number that is too long, -/
  | enabled (v : Value) (known : entries.KeysKnown)
      (value : valueUnder? "enabled" entries = some v) (long : v.isShowable = false)
  /-- or, where `enabled` is all right, that about `severity` would. -/
  | severity (v : Value) (known : entries.KeysKnown)
      (switch : ∀ w, valueUnder? "enabled" entries = some w → ∃ b, w = .bool b)
      (value : valueUnder? "severity" entries = some v) (long : v.isShowable = false)

section Entries

variable {entries : SettingsEntries}

theorem mapM_text?_eq_none_iff {vs : List Value} :
    vs.mapM Value.text? = none ↔ ∃ v ∈ vs, v.text? = none := by
  constructor
  · intro h
    by_contra texts
    have texts : ∀ v ∈ vs, v.text? ≠ none := fun v hv hnone => texts ⟨v, hv, hnone⟩
    rw [mapM_eq_some_iff.2 ⟨texts, rfl⟩] at h
    cases h
  · rintro ⟨v, hv, hnone⟩
    rw [Option.eq_none_iff_forall_ne_some]
    intro ss h
    exact (mapM_eq_some_iff.1 h).1 v hv hnone

/-- A key that is no text is always one that means nothing. -/
theorem exists_unknown_not_text_iff :
    (∃ k ∈ (entries.map Prod.fst).filter fun k => !k.text?.any (· ∈ settingsKeys),
      k.text? = none) ↔ ∃ e ∈ entries, e.1.text? = none := by
  constructor
  · rintro ⟨k, hk, hnone⟩
    obtain ⟨e, he, rfl⟩ := List.mem_map.1 (List.mem_filter.1 hk).1
    exact ⟨e, he, hnone⟩
  · rintro ⟨e, he, hnone⟩
    exact ⟨e.1, List.mem_filter.2 ⟨List.mem_map_of_mem he, by simp [hnone]⟩, hnone⟩

/-- A key that is no text cannot be listed among the unknown keys. -/
theorem unanswered_checkKeys_iff :
    Unanswered SettingsFault.message? (checkKeys entries) ↔
      ∃ e ∈ entries, e.1.text? = none := by
  rw [← exists_unknown_not_text_iff, ← mapM_text?_eq_none_iff, checkKeys]
  split
  · next h => simp [h, SettingsFault.message?]
  · next h => simp [h]
  · next keys _ h => simp [h, SettingsFault.message?]

theorem filter_unknown_eq_nil_iff :
    ((entries.map Prod.fst).filter fun k => !k.text?.any (· ∈ settingsKeys)) = [] ↔
      entries.KeysKnown := by
  simp [List.filter_eq_nil_iff, SettingsEntries.KeysKnown, Option.any_eq_true, and_comm]

/-- The keys are fine if each of them means something. -/
theorem checkKeys_eq_ok_iff : checkKeys entries = .ok () ↔ entries.KeysKnown := by
  rw [← filter_unknown_eq_nil_iff, checkKeys]
  generalize ((entries.map Prod.fst).filter fun k => !k.text?.any (· ∈ settingsKeys)) = unknown
  split
  · next h =>
    obtain ⟨v, hv, -⟩ := mapM_text?_eq_none_iff.1 h
    exact iff_of_false (by simp) (List.ne_nil_of_mem hv)
  · next h =>
    obtain ⟨texts, hnil⟩ := mapM_eq_some_iff.1 h
    refine iff_of_true rfl ?_
    rw [List.eq_nil_iff_forall_not_mem]
    intro v hv
    exact texts v hv (List.filterMap_eq_nil_iff.1 hnil v hv)
  · next keys hne h =>
    refine iff_of_false (by simp) ?_
    rintro rfl
    exact hne (mapM_eq_some_iff.1 h).2.symm

/-- `enabled` is fine: it is not given, or it is a truth value. -/
theorem enabledOf_ok_iff :
    (∃ b, enabledOf entries = .ok b) ↔
      ∀ w, valueUnder? "enabled" entries = some w → ∃ b, w = .bool b := by
  rw [enabledOf]
  split
  · next h => simp [h]
  · next b h => simp [h]
  · next v hbool h =>
    refine iff_of_false (by simp) fun hw => ?_
    obtain ⟨b, rfl⟩ := hw v h
    exact hbool b rfl

/-- The complaint about `enabled` shows its value. -/
theorem unanswered_enabledOf_iff :
    Unanswered SettingsFault.message? (enabledOf entries) ↔
      ∃ v, valueUnder? "enabled" entries = some v ∧ v.isShowable = false := by
  rw [enabledOf]
  split
  · next h => simp [h]
  · next b h => simp [h, Value.isShowable]
  · next v _ h =>
    cases hv : v.isShowable <;> simp [h, hv, SettingsFault.message?]

/-- The complaint about `severity` shows its value. -/
theorem unanswered_severityOf_iff :
    Unanswered SettingsFault.message? (severityOf entries) ↔
      ∃ v, valueUnder? "severity" entries = some v ∧ v.isShowable = false := by
  rw [severityOf]
  split
  · next h => simp [h]
  · next v h =>
    rw [Severity.ofValue?]
    cases hv : v.isShowable with
    | false => simp [h, hv, SettingsFault.message?]
    | true =>
      simp only [Bool.not_true, Bool.false_eq_true, if_false]
      split <;> simp [h, hv, SettingsFault.message?]

/-- The complaint about patterns shows no value. -/
theorem not_unanswered_patternsOf (key : String) (fallback : List String) :
    ¬Unanswered SettingsFault.message? (patternsOf key fallback entries) := by
  rw [patternsOf]
  split
  · simp
  · split <;> simp [SettingsFault.message?]
  · simp [SettingsFault.message?]

/-- What is looked at first decides: all keys, then `enabled`, then `severity`. -/
theorem unanswered_ofEntries?_iff :
    Unanswered SettingsFault.message? (Settings.ofEntries? entries) ↔ entries.Unforeseen := by
  rw [Settings.ofEntries?, unanswered_bind, unanswered_checkKeys_iff]
  constructor
  · rintro (⟨e, he, hnone⟩ | ⟨_, hkeys, h⟩)
    · exact .key e he hnone
    have known := checkKeys_eq_ok_iff.1 hkeys
    obtain h | ⟨b, henabled, h⟩ := unanswered_bind.1 h
    · obtain ⟨v, hv, long⟩ := unanswered_enabledOf_iff.1 h
      exact .enabled v known hv long
    obtain h | ⟨severity, -, h⟩ := unanswered_bind.1 h
    · obtain ⟨v, hv, long⟩ := unanswered_severityOf_iff.1 h
      exact .severity v known (enabledOf_ok_iff.1 ⟨b, henabled⟩) hv long
    -- The patterns are either fine or wrong in a way that there is wording for.
    obtain h | ⟨includes, -, h⟩ := unanswered_bind.1 h
    · exact absurd h (not_unanswered_patternsOf _ _)
    obtain h | ⟨excludes, -, h⟩ := unanswered_bind.1 h
    · exact absurd h (not_unanswered_patternsOf _ _)
    · exact absurd h (not_unanswered_ok _)
  · rintro (⟨e, he, hnone⟩ | ⟨v, known, hv, long⟩ | ⟨v, known, henabled, hv, long⟩)
    · exact .inl ⟨e, he, hnone⟩
    · refine .inr ⟨(), checkKeys_eq_ok_iff.2 known, unanswered_bind.2 (.inl ?_)⟩
      exact unanswered_enabledOf_iff.2 ⟨v, hv, long⟩
    · obtain ⟨b, hb⟩ := enabledOf_ok_iff.2 henabled
      refine .inr ⟨(), checkKeys_eq_ok_iff.2 known, unanswered_bind.2 (.inr ⟨b, hb, ?_⟩)⟩
      exact unanswered_bind.2 (.inl (unanswered_severityOf_iff.2 ⟨v, hv, long⟩))

end Entries

/-- The value is a mapping that no complaint can be made about though it
describes no settings. -/
def Value.Unforeseen (v : Value) : Prop :=
  ∃ entries, v = .mapping entries ∧
    SettingsEntries.Unforeseen (entries.map fun (key, value) => (key, Thunk.pure value))

/-- Of all values only a mapping can lead to a failure without wording. -/
theorem unanswered_ofValue?_iff {v : Value} :
    Unanswered SettingsFault.message? (Settings.ofValue? v) ↔ v.Unforeseen := by
  cases v with
  | mapping entries =>
    rw [Settings.ofValue?, unanswered_ofEntries?_iff]
    simp [Value.Unforeseen]
  | _ => simp [Settings.ofValue?, Value.Unforeseen, SettingsFault.message?]

/-! ## Settings files -/

/-- The content is a mapping that no complaint can be made about though it
describes no settings. -/
inductive SettingsContent.Unforeseen : SettingsContent → Prop
  | mapping {entries : SettingsEntries} (unforeseen : entries.Unforeseen) :
      Unforeseen (.mapping entries)
  | value {v : Value} (unforeseen : v.Unforeseen) : Unforeseen (.value v)

theorem unanswered_ofContent?_iff {content : SettingsContent} :
    Unanswered SettingsFault.message? (Settings.ofContent? content) ↔ content.Unforeseen := by
  cases content with
  | mapping entries =>
    rw [Settings.ofContent?, unanswered_ofEntries?_iff]
    refine ⟨.mapping, fun h => ?_⟩
    cases h with
    | mapping h => exact h
  | value v =>
    rw [Settings.ofContent?, unanswered_ofValue?_iff]
    refine ⟨.value, fun h => ?_⟩
    cases h with
    | value h => exact h

/-- The reader finds that a text holds something or that it breaks a rule of YAML.
Nothing is asked of it for bytes that are no text. -/
def YamlReader.ReadsText (load : YamlReader) : Prop :=
  ∀ bytes text, Text.decodeUtf8 bytes = .ok text →
    (∃ content, load bytes = .ok content) ∨ load bytes = .error .malformed

/-- The file at a path is unusable in a way that there is no wording for. -/
inductive FileSystem.Unforeseen (files : FileSystem) (load : YamlReader) (path : String) : Prop
  /-- It is there but cannot be opened: it is a folder, say. -/
  | opening (fault : PathFault) (fails : files.read path = .error fault)
      (there : fault ≠ .notFound)
  /-- Its bytes are no text, and the reader comes to where they are not. -/
  | decoding (bytes : List UInt8) (opens : files.read path = .ok bytes)
      (notText : ∃ fault, Text.decodeUtf8 bytes = .error fault)
      (fails : ∃ fault, load bytes = .error fault ∧ fault ≠ .malformed)
  /-- It holds a mapping that no complaint can be made about. -/
  | content (bytes : List UInt8) (content : SettingsContent) (opens : files.read path = .ok bytes)
      (reads : load bytes = .ok content) (unforeseen : content.Unforeseen)

/-- Only a broken rule of YAML has wording. -/
theorem message?_noValue_eq_none_iff {path : String} {fault : Yaml.Fault} :
    (LoadFault.noValue path fault).message? = none ↔ fault ≠ .malformed := by
  cases fault <;> simp [LoadFault.message?]

section Files

variable {load : YamlReader} {files : FileSystem}

/-- Bytes lead to no answer if they cannot be read, or hold what is not foreseen. -/
theorem unanswered_settingsIn_iff {path : String} {bytes : List UInt8} :
    Unanswered LoadFault.message? (settingsIn load path bytes) ↔
      (∃ fault, load bytes = .error fault ∧ fault ≠ .malformed) ∨
        ∃ content, load bytes = .ok content ∧ content.Unforeseen := by
  rw [settingsIn]
  cases load bytes with
  | error fault =>
    show Unanswered _ (.error (LoadFault.noValue path fault)) ↔ _
    simp [message?_noValue_eq_none_iff]
  | ok content =>
    show Unanswered _ ((Settings.ofContent? content).mapError LoadFault.badSettings) ↔ _
    rw [unanswered_mapError]
    show Unanswered SettingsFault.message? _ ↔ _
    simp [unanswered_ofContent?_iff]

/-- A reader that copes with all text fails otherwise only on what is none. -/
theorem YamlReader.ReadsText.exists_decode_error (reads : load.ReadsText) {bytes : List UInt8}
    {fault : Yaml.Fault} (fails : load bytes = .error fault) (other : fault ≠ .malformed) :
    ∃ fault, Text.decodeUtf8 bytes = .error fault := by
  cases hdecode : Text.decodeUtf8 bytes with
  | error fault => exact ⟨fault, rfl⟩
  | ok text =>
    obtain ⟨content, h⟩ | h := reads bytes text hdecode
    · cases fails.symm.trans h
    · exact absurd (Except.error.inj (fails.symm.trans h)) other

/-- The file at a path leads to no answer exactly if it is one of those listed. -/
theorem unanswered_settingsAt_iff (reads : load.ReadsText) {path : String} :
    Unanswered LoadFault.message? (settingsAt load files path) ↔ files.Unforeseen load path := by
  cases hread : files.read path with
  | error fault =>
    have failure : Unanswered LoadFault.message? (settingsAt load files path) ↔
        fault ≠ .notFound := by
      cases fault <;>
        simp [settingsAt, hread, LoadFault.message?, throw, throwThe, MonadExceptOf.throw]
    rw [failure]
    constructor
    · exact .opening fault hread
    · rintro (⟨_, fails, there⟩ | ⟨_, opens, -, -⟩ | ⟨_, _, opens, -, -⟩)
      · obtain rfl := Except.error.inj (hread.symm.trans fails)
        exact there
      · cases hread.symm.trans opens
      · cases hread.symm.trans opens
  | ok bytes =>
    have success : settingsAt load files path = settingsIn load path bytes := by
      rw [settingsAt, hread]
    rw [success, unanswered_settingsIn_iff]
    constructor
    · rintro (⟨fault, fails, other⟩ | ⟨content, holds, unforeseen⟩)
      · exact .decoding bytes hread (reads.exists_decode_error fails other) ⟨fault, fails, other⟩
      · exact .content bytes content hread holds unforeseen
    · rintro (⟨_, fails, -⟩ | ⟨_, opens, -, fails⟩ | ⟨_, content, opens, holds, h⟩)
      · cases hread.symm.trans fails
      · obtain rfl := Except.ok.inj (hread.symm.trans opens)
        exact .inl fails
      · obtain rfl := Except.ok.inj (hread.symm.trans opens)
        exact .inr ⟨content, holds, h⟩

/-- The settings file that is read: the one that is named, or the standard one if
something stands there. -/
def settingsPath? (files : FileSystem) : Option String → Option String
  | some path => some path
  | none =>
      match files.find standardSettingsFile with
      | .ok _ => some standardSettingsFile
      | .error _ => none

theorem unanswered_loadSettings_iff (reads : load.ReadsText) {path? : Option String} :
    Unanswered LoadFault.message? (loadSettings load files path?) ↔
      ∃ path, settingsPath? files path? = some path ∧ files.Unforeseen load path := by
  cases path? with
  | some path =>
    have loads : loadSettings load files (some path) = settingsAt load files path >>= fun s =>
        pure ⟨s, some path⟩ := rfl
    rw [loads, unanswered_bind_pure, unanswered_settingsAt_iff reads]
    simp [settingsPath?]
  | none =>
    cases hfind : files.find standardSettingsFile with
    | ok tree =>
      have loads : loadSettings load files none = settingsAt load files standardSettingsFile >>=
          fun s => pure ⟨s, some standardSettingsFile⟩ := by
        simp only [loadSettings, hfind]
      rw [loads, unanswered_bind_pure, unanswered_settingsAt_iff reads]
      simp [settingsPath?, hfind]
    | error fault =>
      have loads : loadSettings load files none = .ok ⟨.standard, none⟩ := by
        simp only [loadSettings, hfind]
        rfl
      simp [loads, settingsPath?, hfind]

end Files

/-! ## Runs -/

section Runs

variable {readers : Readers} {source : String} {files : FileSystem} {options : Options}

/-- Options on the command line add no such failure. -/
theorem unanswered_runSettings_iff :
    Unanswered LoadFault.message? (runSettings readers files options) ↔
      Unanswered LoadFault.message? (loadSettings readers.load files options.config?) := by
  rw [runSettings, unanswered_bind]
  refine or_iff_left ?_
  rintro ⟨loaded, -, h⟩
  -- A severity on the command line is a text, which every complaint can show.
  have overrides := options.overrides loaded
  obtain ⟨fault, hfault, silent⟩ := h
  rw [hfault] at overrides
  obtain ⟨⟩ | ⟨label, -, -, -⟩ := overrides
  cases silent

/-- A run ends in such a failure if its settings do. -/
theorem ending_eq_loadFault_iff :
    (∃ fault, (runOptions readers source files options).ending = .loadFault fault) ↔
      Unanswered LoadFault.message? (runSettings readers files options) := by
  obtain ⟨before, -, hrun⟩ := runOptions_eq readers source files options
  rw [hrun]
  cases runSettings readers files options with
  | ok settings => simp
  | error fault =>
    cases hmessage : fault.message? <;> simp [settingsFailure, hmessage]

theorem ending_eq_two_iff {fault : LoadFault}
    (h : runSettings readers files options = .error fault) :
    (runOptions readers source files options).ending = .code 2 ↔
      Answered LoadFault.message? (runSettings readers files options) := by
  obtain ⟨before, -, hrun⟩ := runOptions_eq readers source files options
  rw [hrun, answered_iff, h, unanswered_error]
  cases hmessage : fault.message? <;> simp [settingsFailure, hmessage]

end Runs

/-- Loading settings gives settings or a fault with wording, except for the files
of `FileSystem.Unforeseen`; a run ends in a fault that it is not prepared for with
exactly these, and with the code 2 if its settings fail otherwise.  Among the
values that a file may hold the exceptions are those of `Value.Unforeseen`. -/
theorem settings_answered_iff (readers : Readers) (reads : readers.load.ReadsText)
    (source : String) (files : FileSystem) (options : Options) :
    (Answered LoadFault.message? (loadSettings readers.load files options.config?) ↔
      ∀ path, settingsPath? files options.config? = some path →
        ¬files.Unforeseen readers.load path) ∧
    ((∃ fault, (runOptions readers source files options).ending = .loadFault fault) ↔
      ∃ path, settingsPath? files options.config? = some path ∧
        files.Unforeseen readers.load path) ∧
    (SettingsFail readers files options →
      ((runOptions readers source files options).ending = .code 2 ↔
        Answered LoadFault.message? (loadSettings readers.load files options.config?))) ∧
    (∀ v, Answered SettingsFault.message? (Settings.ofValue? v) ↔ ¬v.Unforeseen) := by
  refine ⟨?_, ?_, ?_, ?_⟩
  · rw [answered_iff, unanswered_loadSettings_iff reads]
    simp only [not_exists, not_and]
  · rw [ending_eq_loadFault_iff, unanswered_runSettings_iff, unanswered_loadSettings_iff reads]
  · intro fails
    obtain ⟨fault, h⟩ := settingsFail_iff.1 fails
    rw [ending_eq_two_iff h, answered_iff, answered_iff, unanswered_runSettings_iff]
  · intro v
    rw [answered_iff, unanswered_ofValue?_iff]

/-- The options of a run that names its settings file. -/
def namedSettings : Options := ⟨["."], some "settings.yaml", none, false, .text, false, false⟩

/-- Where the settings file is looked for stands this. -/
def settingsTree (t : FileTree) : FileSystem where
  find path := if path = "settings.yaml" then .ok t else .error .notFound

/-- The text `1: x`. -/
def numberedKey : List UInt8 := [49, 58, 32, 120, 10]

/-- Readers that know one text, and that it is a mapping. -/
def shortReaders : Readers where
  parse := Readers.standard.parse
  load bytes :=
    if bytes = numberedKey then .ok (.mapping [(.int 1, Thunk.pure (.text "x"))])
    else match Text.decodeUtf8 bytes with
      | .ok _ => .error .malformed
      | .error fault => .error (.undecodable fault)

theorem load_shortReaders {bytes : List UInt8} (h : bytes ≠ numberedKey) :
    shortReaders.load bytes = match Text.decodeUtf8 bytes with
      | .ok _ => .error .malformed
      | .error fault => .error (.undecodable fault) :=
  if_neg h

/-- The reader asks for no more than any other: all text is the one it knows or
malformed. -/
theorem readsText_shortReaders : shortReaders.load.ReadsText := by
  intro bytes text hdecode
  by_cases known : bytes = numberedKey
  · exact .inl ⟨_, if_pos known⟩
  · exact .inr (by rw [load_shortReaders known, hdecode])

theorem load_shortReaders_bracket : shortReaders.load [91] = .error .malformed := by
  have decoded : (Text.decodeUtf8 [91]).toOption.isSome = true := by decide +kernel
  rw [load_shortReaders (by decide)]
  cases h : Text.decodeUtf8 [91] with
  | ok text => rfl
  | error fault =>
    rw [h] at decoded
    cases decoded

theorem load_shortReaders_noText : ∃ fault, Text.decodeUtf8 [255] = .error fault ∧
    shortReaders.load [255] = .error (.undecodable fault) := by
  have refused : (Text.decodeUtf8 [255]).toOption = none := by decide +kernel
  rw [load_shortReaders (by decide)]
  cases h : Text.decodeUtf8 [255] with
  | ok text =>
    rw [h] at refused
    cases refused
  | error fault => exact ⟨fault, rfl, rfl⟩

/-- A folder, bytes that are no text and a key that is a number end a run without
a complaint; a lone bracket, which is no YAML, ends it with one. -/
theorem settings_answered_iff_shortReaders :
    shortReaders.load.ReadsText ∧
    (∃ fault, (runOptions shortReaders "check" (settingsTree .empty) namedSettings).ending =
      .loadFault fault) ∧
    (∃ fault, (runOptions shortReaders "check" (settingsTree (.file (.ok [255])))
      namedSettings).ending = .loadFault fault) ∧
    (∃ fault, (runOptions shortReaders "check" (settingsTree (.file (.ok numberedKey)))
      namedSettings).ending = .loadFault fault) ∧
    (runOptions shortReaders "check" (settingsTree (.file (.ok [91]))) namedSettings).ending =
      .code 2 := by
  have answers (t : FileTree) := settings_answered_iff shortReaders readsText_shortReaders "check"
    (settingsTree t) namedSettings
  refine ⟨readsText_shortReaders, ?_, ?_, ?_, ?_⟩
  · exact (answers .empty).2.1.2 ⟨_, rfl, .opening .isFolder rfl (by decide)⟩
  · obtain ⟨fault, notText, fails⟩ := load_shortReaders_noText
    exact (answers _).2.1.2
      ⟨_, rfl, .decoding [255] rfl ⟨fault, notText⟩ ⟨.undecodable fault, fails, by simp⟩⟩
  · have noText : SettingsEntries.Unforeseen [(.int 1, Thunk.pure (.text "x"))] :=
      .key _ List.mem_cons_self rfl
    exact (answers _).2.1.2 ⟨_, rfl, .content numberedKey _ rfl rfl (.mapping noText)⟩
  · have malformed : loadSettings shortReaders.load (settingsTree (.file (.ok [91])))
        (some "settings.yaml") = .error (.noValue "settings.yaml" .malformed) := by
      show (settingsIn shortReaders.load "settings.yaml" [91] >>= _) = _
      rw [settingsIn, load_shortReaders_bracket]
      rfl
    refine ((answers _).2.2.1 (.inl ⟨_, malformed⟩)).2 (.inr ⟨_, _, malformed, rfl⟩)

/-- There is no wording for a folder in place of the settings file, nor for a key
that is a number. -/
theorem settings_not_answered :
    ¬Answered LoadFault.message?
      (loadSettings Readers.standard.load (settingsTree .empty) (some "settings.yaml")) ∧
    (runOptions .standard "check" (settingsTree .empty) namedSettings).ending =
      .loadFault (.unreadable .isFolder) ∧
    ¬Answered SettingsFault.message? (Settings.ofValue? (.mapping [(.int 1, .text "on")])) := by
  refine ⟨?_, rfl, ?_⟩
  · rw [answered_iff, not_not]
    exact ⟨.unreadable .isFolder, rfl, rfl⟩
  · rw [answered_iff, not_not]
    exact ⟨.keyNotText, rfl, rfl⟩

end StateCoverage
