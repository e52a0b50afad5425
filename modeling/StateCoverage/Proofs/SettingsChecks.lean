import StateCoverage.Proofs.FilePlaces
import StateCoverage.Proofs.SettingsFaults
import StateCoverage.Proofs.SeverityNames

/-!
# The checks of settings

A settings value is checked in a fixed order: it is a mapping or nothing, its
keys are known, and then each of the four fields.  It describes settings if it
passes all checks, and otherwise the complaint is that of the first check it
fails, unless the complaint would show a number that is too long.

* `SettingsCheck.Passes`, `SettingsCheck.Complaint` — what each check asks for,
  and what it says otherwise.
* `Value.Describes` — the settings that a value describes, field by field.
* `SettingsCheck.MadeBy` — a step of the reading and the checks it makes; steps
  in a row make their checks in a row (`SettingsCheck.MadeBy.bind`).
* `madeBy_ofValue?` — the reading makes all checks, in order.
* `settings_validated_iff` — which values are accepted, with what result, and
  how the others are refused.
-/

namespace StateCoverage

/-! ## The checks -/

/-- The checks of a settings value. -/
inductive SettingsCheck where
  | mapping
  | keys
  | enabled
  | severity
  | includes
  | excludes

/-- The mapping has a value under a key. -/
def Value.Has (v : Value) (key : String) (w : Value) : Prop :=
  ∃ entries, v = .mapping entries ∧ (.text key, w) ∈ entries

/-- If the value is a mapping, its keys are texts, each given once. -/
def Value.TextKeyed (v : Value) : Prop :=
  ∀ entries, v = .mapping entries →
    ∃ names : List String, entries.map Prod.fst = names.map .text ∧ names.Nodup

/-- The value is a list of these texts. -/
def Value.ListsPatterns (v : Value) (patterns : List String) : Prop :=
  v = .list (patterns.map .text)

/-- A field is what the value under a key means, or the default without one. -/
def Value.Gives {α : Type} (v : Value) (key : String) (means : Value → α → Prop) (default a : α) :
    Prop :=
  (∃ w, v.Has key w ∧ means w a) ∨ (∀ w, ¬v.Has key w) ∧ a = default

/-- The settings that a value describes. -/
structure Value.Describes (v : Value) (s : Settings) : Prop where
  enabled : v.Gives "enabled" (fun w b => w = .bool b) true s.enabled
  severity : v.Gives "severity" Value.NamesSeverity .error s.severity
  includes : v.Gives "include" Value.ListsPatterns ["*.py"] s.includes
  excludes : v.Gives "exclude" Value.ListsPatterns [] s.excludes

namespace SettingsCheck

/-- The order of the checks. -/
def inOrder : List SettingsCheck := [mapping, keys, enabled, severity, includes, excludes]

/-- What a check asks of a value. -/
def Passes (v : Value) : SettingsCheck → Prop
  | mapping => v = .null ∨ ∃ entries, v = .mapping entries
  | keys => ∀ key w, v.Has key w → key ∈ ["enabled", "severity", "include", "exclude"]
  | enabled => ∀ w, v.Has "enabled" w → ∃ b, w = .bool b
  | severity => ∀ w, v.Has "severity" w → ∃ s, w.NamesSeverity s
  | includes => ∀ w, v.Has "include" w → ∃ patterns, w.ListsPatterns patterns
  | excludes => ∀ w, v.Has "exclude" w → ∃ patterns, w.ListsPatterns patterns

/-- The first of some checks that a value fails. -/
inductive FirstFails (v : Value) : List SettingsCheck → SettingsCheck → Prop
  | here {c : SettingsCheck} {cs : List SettingsCheck} (fails : ¬c.Passes v) :
      FirstFails v (c :: cs) c
  | later {c d : SettingsCheck} {cs : List SettingsCheck} (passes : d.Passes v)
      (first : FirstFails v cs c) : FirstFails v (d :: cs) c

/-- What a check says about a value that fails it. -/
inductive Complaint (v : Value) : SettingsCheck → String → Prop
  | mapping : Complaint v mapping "Settings file must contain a mapping"
  /-- All keys that mean nothing are listed in order. -/
  | keys (names : List String) (sorted : names.Pairwise (· < ·))
      (mem : ∀ key, key ∈ names ↔
        (∃ w, v.Has key w) ∧ key ∉ ["enabled", "severity", "include", "exclude"]) :
      Complaint v keys ("Unknown settings: " ++ ", ".intercalate names)
  | enabled (w : Value) (has : v.Has "enabled" w) :
      Complaint v enabled ("'enabled' must be true or false, got " ++ w.shown)
  | severity (w : Value) (has : v.Has "severity" w) :
      Complaint v severity
        ("Invalid severity '" ++ w.plain ++ "' (expected one of: error, warning)")
  | includes : Complaint v includes "'include' must be a list of glob patterns"
  | excludes : Complaint v excludes "'exclude' must be a list of glob patterns"

/-- The complaint of a check shows a part of the value. -/
inductive Shows (v : Value) : SettingsCheck → Value → Prop
  | enabled (w : Value) (has : v.Has "enabled" w) : Shows v enabled w
  | severity (w : Value) (has : v.Has "severity" w) : Shows v severity w

/-- Reading the value fails with the complaint of the check. -/
def Refuses (c : SettingsCheck) (v : Value) : Prop :=
  ∃ fault message, Settings.ofValue? v = .error fault ∧ fault.message? = some message ∧
    c.Complaint v message

/-- If not all checks pass there is a first that fails. -/
theorem exists_firstFails {v : Value} {cs : List SettingsCheck} (h : ¬∀ c ∈ cs, c.Passes v) :
    ∃ c, FirstFails v cs c := by
  induction cs with
  | nil => exact absurd (by simp) h
  | cons d cs ih =>
    by_cases hd : d.Passes v
    · have hcs : ¬∀ c ∈ cs, c.Passes v := by
        intro all
        exact h (List.forall_mem_cons.2 ⟨hd, all⟩)
      obtain ⟨c, first⟩ := ih hcs
      exact ⟨c, .later hd first⟩
    · exact ⟨d, .here hd⟩

theorem FirstFails.exists_not_passes {v : Value} {cs : List SettingsCheck} {c : SettingsCheck}
    (h : FirstFails v cs c) : ∃ d ∈ cs, ¬d.Passes v := by
  induction h with
  | here fails => exact ⟨_, by simp, fails⟩
  | later _ _ ih =>
    obtain ⟨d, hd, fails⟩ := ih
    exact ⟨d, by simp [hd], fails⟩

/-- The first failing check is among the earlier ones, or these all pass. -/
theorem FirstFails.of_append {v : Value} {cs ds : List SettingsCheck} {c : SettingsCheck}
    (h : FirstFails v (cs ++ ds) c) :
    FirstFails v cs c ∨ (∀ d ∈ cs, d.Passes v) ∧ FirstFails v ds c := by
  induction cs with
  | nil => exact .inr ⟨by simp, h⟩
  | cons d cs ih =>
    cases h with
    | here fails => exact .inl (.here fails)
    | later passes first =>
      obtain first | ⟨all, first⟩ := ih first
      · exact .inl (.later passes first)
      · exact .inr ⟨List.forall_mem_cons.2 ⟨passes, all⟩, first⟩

/-- Every check is made, so a value that does not pass all fails a first one. -/
theorem exists_firstFails_inOrder {v : Value} (h : ¬∀ c : SettingsCheck, c.Passes v) :
    ∃ c, FirstFails v inOrder c := by
  refine exists_firstFails fun all => h fun c => all c ?_
  cases c <;> simp [inOrder]

/-! ## Steps of the reading -/

/-- The fault has the wording of the check, unless that would show too much. -/
def Reports (c : SettingsCheck) (v : Value) (fault : SettingsFault) : Prop :=
  (∃ message, fault.message? = some message ∧ c.Complaint v message) ↔
    ∀ w, c.Shows v w → w.isShowable = true

/-- The fault of a check whose wording shows nothing. -/
theorem reports_of_silent {c : SettingsCheck} {v : Value} {fault : SettingsFault}
    {message : String} (silent : ∀ w, ¬c.Shows v w) (hmessage : fault.message? = some message)
    (complaint : c.Complaint v message) : c.Reports v fault :=
  iff_of_true ⟨message, hmessage, complaint⟩ fun w hw => absurd hw (silent w)

/-- The fault of a check whose wording shows one value. -/
theorem reports_of_shown {c : SettingsCheck} {v w : Value} {fault worded : SettingsFault}
    {message : String} (shown : c.Shows v w) (only : ∀ u, c.Shows v u → u = w)
    (hfault : fault = if w.isShowable then worded else .unshowable)
    (hmessage : worded.message? = some message) (complaint : c.Complaint v message) :
    c.Reports v fault := by
  cases hw : w.isShowable with
  | true =>
    rw [hw, if_pos rfl] at hfault
    refine iff_of_true ⟨message, hfault ▸ hmessage, complaint⟩ ?_
    intro u hu
    rwa [only u hu]
  | false =>
    rw [hw, if_neg Bool.false_ne_true] at hfault
    refine iff_of_false ?_ fun h => ?_
    · rintro ⟨message, hnone, -⟩
      rw [hfault] at hnone
      cases hnone
    · have short := h w shown
      rw [hw] at short
      cases short

/-- A computation that makes some checks, in order, and gives what they leave. -/
structure MadeBy {α : Type} (v : Value) (cs : List SettingsCheck) (step : Except SettingsFault α)
    (holds : α → Prop) : Prop where
  passes : (∀ c ∈ cs, c.Passes v) → ∃ a, step = .ok a ∧ holds a
  fails : ∀ c, FirstFails v cs c → ∃ fault, step = .error fault ∧ c.Reports v fault

section MadeBy

variable {α β : Type} {v : Value}

/-- A result that all checks allow. -/
theorem MadeBy.ok {cs : List SettingsCheck} {a : α} {holds : α → Prop}
    (all : ∀ c ∈ cs, c.Passes v) (h : holds a) : MadeBy v cs (.ok a) holds where
  passes _ := ⟨a, rfl, h⟩
  fails _ first := by
    obtain ⟨d, hd, fails⟩ := first.exists_not_passes
    exact absurd (all d hd) fails

/-- A fault that the first of the checks reports. -/
theorem MadeBy.error {c : SettingsCheck} {cs : List SettingsCheck} {fault : SettingsFault}
    {holds : α → Prop} (fails : ¬c.Passes v) (reports : c.Reports v fault) :
    MadeBy v (c :: cs) (.error fault) holds where
  passes all := absurd (all c (by simp)) fails
  fails d first := by
    cases first with
    | here _ => exact ⟨fault, rfl, reports⟩
    | later passes _ => exact absurd passes fails

/-- Checks in a row: those of the second step are made if the first step succeeds. -/
theorem MadeBy.bind {cs ds : List SettingsCheck} {step : Except SettingsFault α}
    {next : α → Except SettingsFault β} {holds : α → Prop} {holds' : β → Prop}
    (first : MadeBy v cs step holds) (second : ∀ a, holds a → MadeBy v ds (next a) holds') :
    MadeBy v (cs ++ ds) (step >>= next) holds' where
  passes all := by
    obtain ⟨a, hstep, ha⟩ := first.passes fun c hc => all c (List.mem_append_left _ hc)
    obtain ⟨b, hnext, hb⟩ := (second a ha).passes fun c hc => all c (List.mem_append_right _ hc)
    exact ⟨b, by rw [hstep]; exact hnext, hb⟩
  fails c hc := by
    obtain hc | ⟨all, hc⟩ := hc.of_append
    · obtain ⟨fault, hstep, reports⟩ := first.fails c hc
      exact ⟨fault, by rw [hstep]; rfl, reports⟩
    · obtain ⟨a, hstep, ha⟩ := first.passes all
      obtain ⟨fault, hnext, reports⟩ := (second a ha).fails c hc
      exact ⟨fault, by rw [hstep]; exact hnext, reports⟩

end MadeBy

end SettingsCheck

/-! ## The fields -/

/-- Entries as they are looked at. -/
def lazily (entries : List (Value × Value)) : SettingsEntries :=
  entries.map fun (key, value) => (key, Thunk.pure value)

theorem has_mapping_iff {entries : List (Value × Value)} {key : String} {w : Value} :
    (Value.mapping entries).Has key w ↔ (.text key, w) ∈ entries := by
  constructor
  · rintro ⟨_, ⟨⟩, mem⟩
    exact mem
  · intro mem
    exact ⟨entries, rfl, mem⟩

theorem Value.text?_text (s : String) : (Value.text s).text? = some s := rfl

/-- Where each key is given once, what is found under a key is what stands there. -/
theorem valueUnder?_eq_some_iff {entries : List (Value × Value)} {names : List String}
    (hkeys : entries.map Prod.fst = names.map .text) (distinct : names.Nodup) {key : String}
    {w : Value} :
    valueUnder? key (lazily entries) = some w ↔ (Value.mapping entries).Has key w := by
  rw [has_mapping_iff]
  induction entries generalizing names with
  | nil => simp [valueUnder?, lazily]
  | cons e entries ih =>
    cases names with
    | nil => cases hkeys
    | cons name names =>
      obtain ⟨k, v⟩ := e
      obtain ⟨hk, hrest⟩ := List.cons.inj hkeys
      obtain rfl : k = .text name := hk
      rw [List.nodup_cons] at distinct
      have step : valueUnder? key (lazily ((.text name, v) :: entries)) =
          if name = key then some v else valueUnder? key (lazily entries) := by
        have forced : (Thunk.pure v).get = v := rfl
        by_cases h : name = key <;> simp [valueUnder?, lazily, Value.text?_text, forced, h]
      rw [step, List.mem_cons]
      by_cases hname : name = key
      · -- The rest of the entries has no such key.
        subst hname
        have fresh : (Value.text name, w) ∉ entries := by
          intro hmem
          have hmem := List.mem_map_of_mem (f := Prod.fst) hmem
          rw [hrest] at hmem
          obtain ⟨other, hother, heq⟩ := List.mem_map.1 hmem
          rw [Value.text.inj heq] at hother
          exact distinct.1 hother
        simp [fresh, eq_comm]
      · have hname' : ¬key = name := fun h => hname h.symm
        rw [if_neg hname, ih hrest distinct.2]
        simp [hname']

/-- `enabled`, as it is read from a value. -/
def Value.readSwitch : Value → Except SettingsFault Bool
  | .bool b => .ok b
  | v => .error (if v.isShowable then .enabledNotBool v else .unshowable)

/-- Patterns, as they are read from the value under a key. -/
def Value.readPatterns (key : String) : Value → Except SettingsFault (List String)
  | .list items =>
      match items.mapM Value.text? with
      | some patterns => .ok patterns
      | none => .error (.badPatterns key)
  | _ => .error (.badPatterns key)

/-- Each field is looked up, read by a reader of its own, and has a default.  This
one is `enabled`. -/
theorem enabledOf_eq (es : SettingsEntries) :
    enabledOf es = ((valueUnder? "enabled" es).map Value.readSwitch).getD (.ok true) := by
  rw [enabledOf]
  cases valueUnder? "enabled" es with
  | none => rfl
  | some v => cases v <;> rfl

theorem severityOf_eq (es : SettingsEntries) :
    severityOf es = ((valueUnder? "severity" es).map Severity.ofValue?).getD (.ok .error) := by
  rw [severityOf]
  cases valueUnder? "severity" es <;> rfl

theorem patternsOf_eq (key : String) (fallback : List String) (es : SettingsEntries) :
    patternsOf key fallback es =
      ((valueUnder? key es).map (Value.readPatterns key)).getD (.ok fallback) := by
  rw [patternsOf]
  cases valueUnder? key es with
  | none => rfl
  | some v => cases v <;> rfl

/-- Only a truth value is a switch. -/
theorem Value.readSwitch_eq_ok_iff {w : Value} {b : Bool} :
    w.readSwitch = .ok b ↔ w = .bool b := by
  cases w <;> simp [readSwitch]

theorem Value.fault_of_readSwitch {w : Value} {fault : SettingsFault}
    (h : w.readSwitch = .error fault) :
    fault = if w.isShowable then .enabledNotBool w else .unshowable := by
  cases w with
  | bool b => cases h
  | _ =>
    rw [readSwitch, Except.error.injEq] at h
    · exact h.symm
    · simp

theorem Severity.fault_of_ofValue? {w : Value} {fault : SettingsFault}
    (h : Severity.ofValue? w = .error fault) :
    fault = if w.isShowable then .badSeverity w else .unshowable := by
  rw [Severity.ofValue?] at h
  cases hshow : w.isShowable with
  | false =>
    rw [hshow] at h
    cases h
    rfl
  | true =>
    simp only [hshow, Bool.not_true, Bool.false_eq_true, if_false] at h
    split at h
    · cases h
    · cases h
      rfl

theorem mapM_text?_eq_some_iff {items : List Value} {patterns : List String} :
    items.mapM Value.text? = some patterns ↔ items = patterns.map .text := by
  rw [mapM_eq_some_iff]
  constructor
  · rintro ⟨texts, rfl⟩
    induction items with
    | nil => rfl
    | cons w items ih =>
      rw [List.forall_mem_cons] at texts
      cases w with
      | text s => rw [List.filterMap_cons_some (Value.text?_text s), List.map_cons, ← ih texts.2]
      | _ => exact absurd rfl texts.1
  · rintro rfl
    constructor
    · simp [Value.text?_text]
    · simp [List.filterMap_map, Function.comp_def, Value.text?_text]

/-- Only a list of texts is a list of patterns. -/
theorem Value.readPatterns_eq_ok_iff {key : String} {w : Value} {patterns : List String} :
    w.readPatterns key = .ok patterns ↔ w.ListsPatterns patterns := by
  cases w with
  | list items =>
    rw [readPatterns, ListsPatterns, Value.list.injEq, ← mapM_text?_eq_some_iff]
    split <;> simp [*]
  | _ => simp [readPatterns, ListsPatterns]

theorem Value.fault_of_readPatterns {key : String} {w : Value} {fault : SettingsFault}
    (h : w.readPatterns key = .error fault) : fault = .badPatterns key := by
  cases w with
  | list items =>
    rw [readPatterns] at h
    split at h
    · cases h
    · exact (Except.error.inj h).symm
  | _ => exact (Except.error.inj h).symm

/-! ## Mappings with text keys -/

section Mapping

variable {entries : List (Value × Value)} {names : List String}
  (hkeys : entries.map Prod.fst = names.map .text) (distinct : names.Nodup)

include hkeys distinct

/-- A mapping has one value under a key, since no key is there twice. -/
theorem has_unique {key : String} {w u : Value} (hw : (Value.mapping entries).Has key w)
    (hu : (Value.mapping entries).Has key u) : w = u := by
  rw [← valueUnder?_eq_some_iff hkeys distinct] at hw hu
  exact Option.some.inj (hw.symm.trans hu)

/-- The step that looks up one key, reads the value under it and goes on with a
default if there is none. -/
theorem madeBy_lookup {α : Type} {c : SettingsCheck} {key : String}
    {read : Value → Except SettingsFault α} {default : α} {means : Value → α → Prop}
    (hpasses : c.Passes (.mapping entries) ↔
      ∀ w, (Value.mapping entries).Has key w → ∃ a, means w a)
    (hread : ∀ w a, read w = .ok a ↔ means w a)
    (hfault : ∀ w fault, (Value.mapping entries).Has key w → read w = .error fault →
      c.Reports (.mapping entries) fault) :
    SettingsCheck.MadeBy (.mapping entries) [c]
      (((valueUnder? key (lazily entries)).map read).getD (.ok default))
      ((Value.mapping entries).Gives key means default) := by
  have has : ∀ w, valueUnder? key (lazily entries) = some w ↔
      (Value.mapping entries).Has key w := fun w => valueUnder?_eq_some_iff hkeys distinct
  cases hvalue : valueUnder? key (lazily entries) with
  | none =>
    have absent : ∀ w, ¬(Value.mapping entries).Has key w := by
      intro w hw
      rw [← has, hvalue] at hw
      cases hw
    refine .ok ?_ (.inr ⟨absent, rfl⟩)
    rw [List.forall_mem_singleton, hpasses]
    intro w hw
    exact absurd hw (absent w)
  | some w =>
    have present := (has w).1 hvalue
    show SettingsCheck.MadeBy _ [c] (read w) _
    cases hw : read w with
    | ok a =>
      have ha := (hread w a).1 hw
      refine .ok ?_ (.inl ⟨w, present, ha⟩)
      rw [List.forall_mem_singleton, hpasses]
      intro u hu
      rw [← has_unique hkeys distinct present hu]
      exact ⟨a, ha⟩
    | error fault =>
      refine .error ?_ (hfault w fault present hw)
      intro passes
      obtain ⟨a, ha⟩ := hpasses.1 passes w present
      rw [(hread w a).2 ha] at hw
      cases hw

/-- Reading `enabled` makes the check of `enabled`, and gives what the mapping says.
-/
theorem madeBy_enabledOf :
    SettingsCheck.MadeBy (.mapping entries) [.enabled] (enabledOf (lazily entries))
      ((Value.mapping entries).Gives "enabled" (fun w b => w = .bool b) true) := by
  rw [enabledOf_eq]
  refine madeBy_lookup hkeys distinct Iff.rfl (fun _ _ => Value.readSwitch_eq_ok_iff) ?_
  intro w fault has hfault
  refine SettingsCheck.reports_of_shown (.enabled w has) ?_ (Value.fault_of_readSwitch hfault) rfl
    (.enabled w has)
  rintro u ⟨_, hu⟩
  exact has_unique hkeys distinct hu has

/-- Reading `severity` makes the check of `severity`. -/
theorem madeBy_severityOf :
    SettingsCheck.MadeBy (.mapping entries) [.severity] (severityOf (lazily entries))
      ((Value.mapping entries).Gives "severity" Value.NamesSeverity .error) := by
  rw [severityOf_eq]
  refine madeBy_lookup hkeys distinct Iff.rfl (fun _ _ => Severity.ofValue?_eq_ok_iff) ?_
  intro w fault has hfault
  have wording : (SettingsFault.badSeverity w).message? =
      some ("Invalid severity '" ++ w.plain ++ "' (expected one of: error, warning)") := by
    have ending : "' (expected one of: " ++
        (", ".intercalate (Severity.all.map Severity.label) ++ ")") =
          "' (expected one of: error, warning)" := by decide
    show some (_ ++ _ ++ _ ++ _ ++ _) = _
    rw [String.append_assoc, String.append_assoc]
    exact congrArg (fun e => some ("Invalid severity '" ++ w.plain ++ e)) ending
  refine SettingsCheck.reports_of_shown (.severity w has) ?_ (Severity.fault_of_ofValue? hfault)
    wording (.severity w has)
  rintro u (_ | ⟨_, hu⟩)
  exact has_unique hkeys distinct hu has

/-- The two lists of patterns are read alike. -/
theorem madeBy_patternsOf {c : SettingsCheck} {key : String} (fallback : List String)
    (hpasses : c.Passes (.mapping entries) ↔ ∀ w, (Value.mapping entries).Has key w →
      ∃ patterns, w.ListsPatterns patterns)
    (silent : ∀ w, ¬c.Shows (.mapping entries) w)
    (complaint : c.Complaint (.mapping entries) s!"'{key}' must be a list of glob patterns") :
    SettingsCheck.MadeBy (.mapping entries) [c] (patternsOf key fallback (lazily entries))
      ((Value.mapping entries).Gives key Value.ListsPatterns fallback) := by
  rw [patternsOf_eq]
  refine madeBy_lookup hkeys distinct hpasses (fun _ _ => Value.readPatterns_eq_ok_iff) ?_
  intro w fault _ hfault
  rw [Value.fault_of_readPatterns hfault]
  exact SettingsCheck.reports_of_silent silent rfl complaint

/-- Going through the keys makes the check of the keys. -/
theorem madeBy_checkKeys :
    SettingsCheck.MadeBy (.mapping entries) [.keys] (checkKeys (lazily entries))
      fun _ => True := by
  have has : ∀ key, (∃ w, (Value.mapping entries).Has key w) ↔ key ∈ names := by
    intro key
    have hmem : key ∈ names ↔ .text key ∈ entries.map Prod.fst := by
      rw [hkeys]
      simp
    simp [hmem, has_mapping_iff]
  -- All keys are texts, so those that mean nothing can be sorted and named.
  have unknown : ((lazily entries).map Prod.fst).filter (fun k => !k.text?.any (· ∈ settingsKeys)) =
      (names.filter (· ∉ settingsKeys)).map .text := by
    have hfst : (lazily entries).map Prod.fst = names.map .text := by
      rw [← hkeys, lazily, List.map_map]
      rfl
    rw [hfst, List.filter_map]
    simp [Function.comp_def, Value.text?_text]
  have passes_iff : SettingsCheck.keys.Passes (.mapping entries) ↔
      names.filter (· ∉ settingsKeys) = [] := by
    rw [List.filter_eq_nil_iff]
    constructor
    · intro passes name hname
      obtain ⟨w, hw⟩ := (has name).2 hname
      rw [decide_eq_true_iff, not_not]
      exact passes name w hw
    · intro known key w hw
      have hkey := known key ((has key).1 ⟨w, hw⟩)
      rw [decide_eq_true_iff, not_not] at hkey
      exact hkey
  rw [checkKeys, unknown, mapM_text?_eq_some_iff.2 rfl]
  cases hnames : names.filter (· ∉ settingsKeys) with
  | nil => exact .ok (List.forall_mem_singleton.2 (passes_iff.2 hnames)) trivial
  | cons name rest =>
    refine .error (fun passes => ?_)
      (SettingsCheck.reports_of_silent (by rintro w ⟨⟩) rfl (.keys _ ?_ ?_))
    · rw [passes_iff.1 passes] at hnames
      cases hnames
    · rw [← hnames]
      refine pairwise_mergeSort_lt id ?_
      rw [List.map_id]
      exact distinct.filter _
    · intro key
      rw [← hnames, List.mem_mergeSort, List.mem_filter, has]
      simp [settingsKeys]

/-- Reading the entries of a mapping makes all checks but the first. -/
theorem madeBy_ofEntries? :
    SettingsCheck.MadeBy (.mapping entries) [.keys, .enabled, .severity, .includes, .excludes]
      (Settings.ofEntries? (lazily entries)) (Value.mapping entries).Describes := by
  rw [Settings.ofEntries?]
  refine (madeBy_checkKeys hkeys distinct).bind fun _ _ => ?_
  refine (madeBy_enabledOf hkeys distinct).bind fun b enabled => ?_
  refine (madeBy_severityOf hkeys distinct).bind fun s severity => ?_
  refine (madeBy_patternsOf hkeys distinct _ Iff.rfl (by rintro w ⟨⟩) .includes).bind
    fun ps includes => ?_
  refine (madeBy_patternsOf hkeys distinct _ Iff.rfl (by rintro w ⟨⟩) .excludes).bind
    fun qs excludes => ?_
  exact .ok (by simp) ⟨enabled, severity, includes, excludes⟩

end Mapping

/-! ## Values -/

section TextKeyed

variable {v : Value}

theorem not_has_null {key : String} {w : Value} : ¬Value.null.Has key w := by
  rintro ⟨entries, ⟨⟩, -⟩

/-- An empty file describes the standard settings. -/
theorem describes_null : Value.null.Describes .standard where
  enabled := .inr ⟨fun _ => not_has_null, rfl⟩
  severity := .inr ⟨fun _ => not_has_null, rfl⟩
  includes := .inr ⟨fun _ => not_has_null, rfl⟩
  excludes := .inr ⟨fun _ => not_has_null, rfl⟩

theorem SettingsCheck.passes_null (c : SettingsCheck) : c.Passes .null := by
  cases c with
  | mapping => exact .inl rfl
  | keys => exact fun _ _ has => absurd has not_has_null
  | _ => exact fun _ has => absurd has not_has_null

/-- Reading a value makes all the checks in their order. -/
theorem madeBy_ofValue? (h : v.TextKeyed) :
    SettingsCheck.MadeBy v SettingsCheck.inOrder (Settings.ofValue? v) v.Describes := by
  cases v with
  | null => exact .ok (fun c _ => c.passes_null) describes_null
  | mapping entries =>
    obtain ⟨names, hkeys, distinct⟩ := h entries rfl
    -- The first check is made by the form of the value, before any step.
    have isMapping : SettingsCheck.MadeBy (.mapping entries) [.mapping]
        (.ok () : Except SettingsFault Unit) fun _ => True :=
      .ok (List.forall_mem_singleton.2 (.inr ⟨entries, rfl⟩)) trivial
    exact isMapping.bind fun _ _ => madeBy_ofEntries? hkeys distinct
  | _ =>
    refine .error ?_ (SettingsCheck.reports_of_silent (by rintro w ⟨⟩) rfl .mapping)
    rintro (⟨⟨⟩⟩ | ⟨entries, ⟨⟩⟩)

theorem Value.TextKeyed.has_unique (h : v.TextKeyed) {key : String} {w u : Value}
    (hw : v.Has key w) (hu : v.Has key u) : w = u := by
  obtain ⟨entries, rfl, mem⟩ := hw
  obtain ⟨names, hkeys, distinct⟩ := h entries rfl
  exact StateCoverage.has_unique hkeys distinct (has_mapping_iff.2 mem) hu

/-- A value gives a field one meaning at most. -/
theorem Value.Gives.unique {α : Type} {key : String} {means : Value → α → Prop} {default a b : α}
    (hv : v.TextKeyed) (single : ∀ w a b, means w a → means w b → a = b)
    (ha : v.Gives key means default a) (hb : v.Gives key means default b) : a = b := by
  obtain ⟨w, hw, ha⟩ | ⟨absent, rfl⟩ := ha
  · obtain ⟨u, hu, hb⟩ | ⟨absent, -⟩ := hb
    · rw [hv.has_unique hu hw] at hb
      exact single w a b ha hb
    · exact absurd hw (absent w)
  · obtain ⟨u, hu, -⟩ | ⟨-, rfl⟩ := hb
    · exact absurd hu (absent u)
    · rfl

/-- A value describes one settings only. -/
theorem Value.Describes.unique (hv : v.TextKeyed) {s t : Settings} (hs : v.Describes s)
    (ht : v.Describes t) : s = t := by
  obtain ⟨enabled, severity, includes, excludes⟩ := s
  obtain ⟨enabled', severity', includes', excludes'⟩ := t
  have patterns : ∀ (w : Value) (ps qs : List String), w.ListsPatterns ps → w.ListsPatterns qs →
      ps = qs := by
    intro w ps qs hps hqs
    have texts : ps.map Value.text = qs.map Value.text := Value.list.inj (hps.symm.trans hqs)
    exact List.map_injective_iff.2 (fun _ _ => Value.text.inj) texts
  obtain rfl : enabled = enabled' := by
    refine hs.enabled.unique hv ?_ ht.enabled
    rintro w a b rfl hb
    exact Value.bool.inj hb
  obtain rfl : severity = severity' :=
    hs.severity.unique hv (fun _ _ _ ha hb => ha.unique hb) ht.severity
  obtain rfl : includes = includes' := hs.includes.unique hv patterns ht.includes
  obtain rfl : excludes = excludes' := hs.excludes.unique hv patterns ht.excludes
  rfl

/-- A value is accepted exactly if it passes all checks. -/
theorem exists_ofValue?_eq_ok_iff (h : v.TextKeyed) :
    (∃ s, Settings.ofValue? v = .ok s) ↔ ∀ c : SettingsCheck, c.Passes v := by
  constructor
  · rintro ⟨s, hs⟩
    by_contra hfails
    obtain ⟨c, first⟩ := SettingsCheck.exists_firstFails_inOrder hfails
    obtain ⟨fault, hfault, -⟩ := (madeBy_ofValue? h).fails c first
    rw [hs] at hfault
    cases hfault
  · intro all
    obtain ⟨s, hs, -⟩ := (madeBy_ofValue? h).passes fun c _ => all c
    exact ⟨s, hs⟩

/-- A value that is accepted gives the settings that it describes. -/
theorem ofValue?_eq_ok_iff (h : v.TextKeyed) {s : Settings} :
    Settings.ofValue? v = .ok s ↔ (∀ c : SettingsCheck, c.Passes v) ∧ v.Describes s := by
  have given : (∀ c : SettingsCheck, c.Passes v) →
      ∃ t, Settings.ofValue? v = .ok t ∧ v.Describes t :=
    fun all => (madeBy_ofValue? h).passes fun c _ => all c
  constructor
  · intro hs
    have all := (exists_ofValue?_eq_ok_iff h).1 ⟨s, hs⟩
    obtain ⟨t, ht, describes⟩ := given all
    rw [hs] at ht
    cases ht
    exact ⟨all, describes⟩
  · rintro ⟨all, describes⟩
    obtain ⟨t, ht, describes'⟩ := given all
    rwa [describes.unique h describes']

/-- A value that is not accepted has a first check that it fails. -/
theorem exists_firstFails_iff (h : v.TextKeyed) :
    (∃ c, SettingsCheck.FirstFails v SettingsCheck.inOrder c) ↔
      ¬∃ s, Settings.ofValue? v = .ok s := by
  rw [exists_ofValue?_eq_ok_iff h]
  constructor
  · rintro ⟨c, first⟩ all
    obtain ⟨d, -, fails⟩ := first.exists_not_passes
    exact fails (all d)
  · exact SettingsCheck.exists_firstFails_inOrder

/-- The complaint is that of the first failing check, unless it would show a
number that is too long. -/
theorem SettingsCheck.FirstFails.refuses_iff (h : v.TextKeyed) {c : SettingsCheck}
    (first : FirstFails v inOrder c) : c.Refuses v ↔ ∀ w, c.Shows v w → w.isShowable = true := by
  obtain ⟨fault, hfault, reports⟩ := (madeBy_ofValue? h).fails c first
  have refuses : c.Refuses v ↔
      ∃ message, fault.message? = some message ∧ c.Complaint v message := by
    simp [Refuses, hfault]
  rw [refuses]
  exact reports

end TextKeyed

/-! ## Settings written down -/

/-- The mapping of the four fields. -/
def Settings.asValue (s : Settings) : Value :=
  .mapping [(.text "enabled", .bool s.enabled), (.text "severity", .text s.severity.label),
    (.text "include", .list (s.includes.map .text)),
    (.text "exclude", .list (s.excludes.map .text))]

theorem textKeyed_asValue (s : Settings) : s.asValue.TextKeyed := by
  rintro entries ⟨⟩
  exact ⟨settingsKeys, rfl, by decide⟩

theorem describes_asValue (s : Settings) : s.asValue.Describes s where
  enabled := .inl ⟨_, has_mapping_iff.2 (by simp), rfl⟩
  severity := by
    have names : (Value.text s.severity.label).NamesSeverity s.severity := by
      refine Value.namesSeverity_iff.2 ⟨_, rfl, ?_⟩
      cases s.severity <;> decide
    exact .inl ⟨_, has_mapping_iff.2 (by simp), names⟩
  includes := .inl ⟨_, has_mapping_iff.2 (by simp), rfl⟩
  excludes := .inl ⟨_, has_mapping_iff.2 (by simp), rfl⟩

theorem Value.Gives.exists_means {α : Type} {v : Value} {key : String} {means : Value → α → Prop}
    {default a : α} (hv : v.TextKeyed) (h : v.Gives key means default a) {w : Value}
    (has : v.Has key w) : ∃ a, means w a := by
  obtain ⟨u, hu, ha⟩ | ⟨absent, -⟩ := h
  · rw [hv.has_unique has hu]
    exact ⟨a, ha⟩
  · exact absurd has (absent w)

/-- Settings that are written down pass every check. -/
theorem passes_asValue (s : Settings) (c : SettingsCheck) : c.Passes s.asValue := by
  have keyed := textKeyed_asValue s
  have describes := describes_asValue s
  cases c with
  | mapping => exact .inr ⟨_, rfl⟩
  | keys =>
    intro key w has
    have hkey := List.mem_map_of_mem (f := Prod.fst) (has_mapping_iff.1 has)
    simpa using hkey
  | enabled => exact fun w has => describes.enabled.exists_means keyed has
  | severity => exact fun w has => describes.severity.exists_means keyed has
  | includes => exact fun w has => describes.includes.exists_means keyed has
  | excludes => exact fun w has => describes.excludes.exists_means keyed has

theorem ofValue?_asValue (s : Settings) : Settings.ofValue? s.asValue = .ok s :=
  (ofValue?_eq_ok_iff (textKeyed_asValue s)).2 ⟨passes_asValue s, describes_asValue s⟩

/-- A value is accepted if it passes all checks, and then gives the settings that
it describes.  Any other fails a first check, and the complaint is that check's,
if it does not have to show a number that is too long.  Settings that are
written down are read back. -/
theorem settings_validated_iff (v : Value) (h : v.TextKeyed) :
    ((∃ s, Settings.ofValue? v = .ok s) ↔ ∀ c : SettingsCheck, c.Passes v) ∧
    (∀ s, Settings.ofValue? v = .ok s ↔ (∀ c : SettingsCheck, c.Passes v) ∧ v.Describes s) ∧
    ((∃ c, SettingsCheck.FirstFails v SettingsCheck.inOrder c) ↔
      ¬∃ s, Settings.ofValue? v = .ok s) ∧
    (∀ c, SettingsCheck.FirstFails v SettingsCheck.inOrder c →
      (c.Refuses v ↔ ∀ w, c.Shows v w → w.isShowable = true)) ∧
    ∀ s : Settings, Settings.ofValue? s.asValue = .ok s :=
  ⟨exists_ofValue?_eq_ok_iff h, fun _ => ofValue?_eq_ok_iff h, exists_firstFails_iff h,
    fun _ first => first.refuses_iff h, ofValue?_asValue⟩

/-- A severity that is none, beside two keys that mean nothing. -/
def oddSettings : Value :=
  .mapping [(.text "severity", .int 7), (.text "colour", .null), (.text "area", .null)]

/-- The keys come first. -/
theorem settings_validated_iff_oddSettings :
    oddSettings.TextKeyed ∧
      SettingsCheck.FirstFails oddSettings SettingsCheck.inOrder .keys ∧
      SettingsCheck.keys.Refuses oddSettings := by
  have keyed : oddSettings.TextKeyed := by
    rintro entries ⟨⟩
    exact ⟨["severity", "colour", "area"], rfl, by decide⟩
  have first : SettingsCheck.FirstFails oddSettings SettingsCheck.inOrder .keys := by
    refine .later (.inr ⟨_, rfl⟩) (.here ?_)
    intro passes
    have known := passes "colour" .null (has_mapping_iff.2 (by simp))
    exact absurd known (by decide)
  refine ⟨keyed, first, ?_⟩
  rw [(settings_validated_iff oddSettings keyed).2.2.2.1 .keys first]
  rintro w ⟨⟩

/-- A number with one digit too many where a truth value belongs. -/
def longSwitch : Value :=
  .mapping [(.text "enabled", .int (Nat.pow 10 Text.mostDigits))]

/-- The complaint about a number that is too long is not made. -/
theorem longSwitch_not_refused :
    longSwitch.TextKeyed ∧
      SettingsCheck.FirstFails longSwitch SettingsCheck.inOrder .enabled ∧
      ¬SettingsCheck.enabled.Refuses longSwitch := by
  have keyed : longSwitch.TextKeyed := by
    rintro entries ⟨⟩
    exact ⟨["enabled"], rfl, by decide⟩
  have has : longSwitch.Has "enabled" (.int (Nat.pow 10 Text.mostDigits)) :=
    has_mapping_iff.2 (List.mem_singleton.2 rfl)
  have first : SettingsCheck.FirstFails longSwitch SettingsCheck.inOrder .enabled := by
    refine .later (.inr ⟨_, rfl⟩) (.later ?_ (.here ?_))
    · intro key w hw
      have hentry := List.mem_singleton.1 (has_mapping_iff.1 hw)
      rw [Value.text.inj (congrArg Prod.fst hentry)]
      decide
    · intro passes
      obtain ⟨b, hb⟩ := passes _ has
      cases hb
  refine ⟨keyed, first, ?_⟩
  rw [first.refuses_iff keyed]
  intro showable
  have short := showable _ (.enabled _ has)
  rw [Value.isShowable, decide_eq_true_iff, Int.natAbs_natCast] at short
  exact absurd short (Nat.lt_irrefl _)

end StateCoverage
