import StateCoverage.Proofs.Respelling
import StateCoverage.Proofs.Transition

/-!
# The table is the effective literal `config`

The table is read off three levels of displays.  At each level the last entry
under a key counts, the first one gives the place, and what cannot be read is
dropped.  This file says for any expression which states and messages the table
has, with which targets and in which order, and what has no part in it.

* `Expr.Reacts` — the `on` display that counts for a state.
* `Expr.AgreesWith` — displays with the same entries under string-literal keys,
  which declare the same table (`ofExpr_eq_of_agreesWith`).
* `table_exact` — the table of an expression, entry by entry and in order.
-/

namespace StateCoverage

/-! ## Keys of a map -/

namespace OrderedMap

variable {β γ : Type}

theorem mem_keys_iff {m : OrderedMap β} {k : String} :
    k ∈ m.keys ↔ ∃ v, m.find? k = some v := by
  simp only [keys, List.mem_map, ← mem_entries_iff]
  constructor
  · rintro ⟨⟨_, v⟩, hmem, rfl⟩
    exact ⟨v, hmem⟩
  · rintro ⟨v, hmem⟩
    exact ⟨(k, v), hmem, rfl⟩

/-- The entries that are kept stay in their order. -/
theorem pairwise_keys_filterMap {m : OrderedMap β} {r : String → String → Prop}
    (h : m.entries.Pairwise fun p q => r p.1 q.1) (f : String → β → Option γ) :
    (m.filterMap f).keys.Pairwise r := by
  rw [keys, List.pairwise_map, filterMap, List.pairwise_filterMap]
  refine h.imp ?_
  intro p q hpq p' hp q' hq
  obtain ⟨v, -, rfl⟩ := Option.map_eq_some_iff.1 hp
  obtain ⟨w, -, rfl⟩ := Option.map_eq_some_iff.1 hq
  exact hpq

end OrderedMap

theorem EffectiveEntry.unique {es : List Entry} {k : String} {v w : Expr}
    (hv : EffectiveEntry es k v) (hw : EffectiveEntry es k w) : v = w :=
  Option.some.inj ((find?_textEntries_iff.2 hv).symm.trans (find?_textEntries_iff.2 hw))

theorem EffectiveDisplay.unique {es inner inner' : List Entry} {k : String}
    (h : EffectiveDisplay es k inner) (h' : EffectiveDisplay es k inner') : inner = inner' := by
  obtain ⟨span, h⟩ := h
  obtain ⟨span', h'⟩ := h'
  exact (Expr.dict.inj (h.unique h')).2

/-! ## States and messages -/

/-- The expression is a dict display, its last entry for `state` is one too, and
of that the last `on` entry is the dict display `on`. -/
def Expr.Reacts (config : Expr) (state : String) (on : List Entry) : Prop :=
  ∃ span es inner, config = .dict span es ∧ EffectiveDisplay es state inner ∧
    EffectiveDisplay inner "on" on

/-- The last entry of the display for `message` is a list or tuple display with
`targets` as its string literals, and there is at least one of them. -/
def Targets (on : List Entry) (message : String) (targets : List String) : Prop :=
  targets ≠ [] ∧ ∃ span form elements, EffectiveEntry on message (.sequence span form elements) ∧
    elements.filterMap Expr.text? = targets

theorem Expr.Reacts.unique {config : Expr} {state : String} {on on' : List Entry}
    (h : config.Reacts state on) (h' : config.Reacts state on') : on = on' := by
  obtain ⟨span, es, inner, rfl, hstate, hon⟩ := h
  obtain ⟨span', es', inner', heq, hstate', hon'⟩ := h'
  obtain ⟨rfl, rfl⟩ := Expr.dict.inj heq
  obtain rfl := hstate.unique hstate'
  exact hon.unique hon'

theorem TransitionTable.find?_ofExpr_iff {config : Expr} {state : String}
    {targets : MessageTargets} : (TransitionTable.ofExpr config).find? state = some targets ↔
      ∃ on, config.Reacts state on ∧ targets = .ofDisplay on := by
  rw [TransitionTable.ofExpr]
  cases hconfig : config.dict? with
  | none =>
    refine iff_of_false (by simp [OrderedMap.find?, OrderedMap.empty]) ?_
    rintro ⟨on, ⟨span, es, inner, rfl, -, -⟩, -⟩
    simp [Expr.dict?] at hconfig
  | some es =>
    obtain ⟨span, rfl⟩ := Expr.dict?_eq_some_iff.1 hconfig
    rw [TransitionTable.find?_ofDisplay_iff]
    constructor
    · rintro ⟨inner, on, hstate, hon, rfl⟩
      exact ⟨on, ⟨span, es, inner, rfl, hstate, hon⟩, rfl⟩
    · rintro ⟨on, ⟨span', es', inner, heq, hstate, hon⟩, rfl⟩
      obtain ⟨rfl, rfl⟩ := Expr.dict.inj heq
      exact ⟨inner, on, hstate, hon, rfl⟩

/-- A state whose last entry has no readable `on` display is not in the table,
whatever its earlier entries are. -/
theorem TransitionTable.not_mem_keys_of_effective {span : Span} {es : List Entry} {state : String}
    {v : Expr} (h : EffectiveEntry es state v)
    (hv : ¬∃ inner on, (∃ s, v = .dict s inner) ∧ EffectiveDisplay inner "on" on) :
    state ∉ (TransitionTable.ofExpr (.dict span es)).keys := by
  rw [OrderedMap.mem_keys_iff]
  rintro ⟨targets, htargets⟩
  obtain ⟨on, ⟨span', es', inner, heq, ⟨s, hstate⟩, hon⟩, -⟩ := find?_ofExpr_iff.1 htargets
  obtain ⟨rfl, rfl⟩ := Expr.dict.inj heq
  exact hv ⟨inner, on, ⟨s, h.unique hstate⟩, hon⟩

/-- A message whose last entry names no target is not among the messages,
whatever its earlier entries are. -/
theorem MessageTargets.not_mem_keys_of_effective {on : List Entry} {message : String} {v : Expr}
    (h : EffectiveEntry on message v) (hv : v.texts = []) :
    message ∉ (MessageTargets.ofDisplay on).keys := by
  rw [OrderedMap.mem_keys_iff]
  rintro ⟨T, hT⟩
  obtain ⟨hne, span, form, elements, hentry, rfl⟩ := MessageTargets.find?_ofDisplay_iff.1 hT
  obtain rfl := h.unique hentry
  exact hne hv

/-! ## Entries without a string-literal key -/

/-- The expressions are equal, or they are dict displays whose entries under
string-literal keys have the same keys and related values.  Their other entries
may differ in any way. -/
inductive Expr.AgreesWith (r : Expr → Expr → Prop) : Expr → Expr → Prop
  | same (e : Expr) : AgreesWith r e e
  | display {span span' : Span} {es es' : List Entry} :
      List.Forall₂ (fun p q => p.1 = q.1 ∧ r p.2 q.2) (es.filterMap Entry.textual?)
        (es'.filterMap Entry.textual?) →
      AgreesWith r (.dict span es) (.dict span' es')

theorem Expr.AgreesWith.textEntries? {r : Expr → Expr → Prop} (hr : ∀ e, r e e) {e e' : Expr}
    (h : AgreesWith r e e') :
    Option.Rel (OrderedMap.Rel r) e.textEntries? e'.textEntries? := by
  cases h with
  | same =>
    refine optionRel_refl ?_ _
    intro m
    exact List.forall₂_same.2 fun p _ => ⟨rfl, hr p.2⟩
  | display h => exact .some (OrderedMap.rel_ofList h)

theorem MessageTargets.map_ofDisplay_eq_of_agreesWith {on on' : Expr}
    (h : Expr.AgreesWith Eq on on') :
    on.dict?.map MessageTargets.ofDisplay = on'.dict?.map MessageTargets.ofDisplay := by
  cases h with
  | same => rfl
  | display h =>
    refine congrArg some ((OrderedMap.rel_ofList h).filterMap_eq ?_)
    rintro _ targets _ rfl
    rfl

theorem MessageTargets.ofState?_eq_of_agreesWith {state state' : Expr}
    (h : Expr.AgreesWith (Expr.AgreesWith Eq) state state') :
    MessageTargets.ofState? state = MessageTargets.ofState? state' := by
  refine bind_eq_of_rel (h.textEntries? .same) ?_
  intro entries entries' hentries
  refine bind_eq_of_rel (hentries.find? "on") ?_
  intro on on' hon
  have hmap := map_ofDisplay_eq_of_agreesWith hon
  rw [Option.map_eq_bind, Option.map_eq_bind] at hmap
  exact hmap

/-- What has no string-literal key has no part in the table, at any of its three
levels. -/
theorem ofExpr_eq_of_agreesWith {config config' : Expr}
    (h : Expr.AgreesWith (Expr.AgreesWith (Expr.AgreesWith Eq)) config config') :
    TransitionTable.ofExpr config = TransitionTable.ofExpr config' := by
  cases h with
  | same => rfl
  | @display _ _ es es' h =>
    show TransitionTable.ofDisplay es = TransitionTable.ofDisplay es'
    refine (OrderedMap.rel_ofList h).filterMap_eq ?_
    intro _ state state' hstate
    exact MessageTargets.ofState?_eq_of_agreesWith hstate

/-! ## The table -/

/-- What the table of a `config` holds, and in which order. -/
structure TransitionTable.ReadsOff (table : TransitionTable) (config : Expr) : Prop where
  /-- The states are those with a readable `on` display. -/
  mem_states : ∀ state, state ∈ table.keys ↔ ∃ on, config.Reacts state on
  /-- The targets of a message are those that the `on` display names. -/
  targets : ∀ state message ts,
    (∃ m, table.find? state = some m ∧ m.find? message = some ts) ↔
      ∃ on, config.Reacts state on ∧ Targets on message ts
  /-- States stand by the first places of their keys, without repetition. -/
  states_order : ∀ span es, config = .dict span es →
    table.keys.Pairwise fun s t => keyPlace es s < keyPlace es t
  /-- So do the messages of a state. -/
  messages_order : ∀ state m on, table.find? state = some m → config.Reacts state on →
    m.keys.Pairwise fun s t => keyPlace on s < keyPlace on t
  /-- A state whose last entry cannot be read is left out. -/
  unreadable_state : ∀ span es state v, config = .dict span es → EffectiveEntry es state v →
    (¬∃ inner on, (∃ s, v = .dict s inner) ∧ EffectiveDisplay inner "on" on) → state ∉ table.keys
  /-- A message whose last entry names no target is left out. -/
  unreadable_message : ∀ state m on message v, table.find? state = some m →
    config.Reacts state on → EffectiveEntry on message v → v.texts = [] → message ∉ m.keys

/-- **The table is the effective literal `config`.**  It holds the states, messages
and targets that the last entries of the displays declare, by the first places
of their keys; an earlier entry never shows through a later one that cannot be
read.  Entries without a string-literal key have no part in it at any level. -/
theorem table_exact (config : Expr) :
    (TransitionTable.ofExpr config).ReadsOff config ∧
      ∀ config', Expr.AgreesWith (Expr.AgreesWith (Expr.AgreesWith Eq)) config config' →
        TransitionTable.ofExpr config = TransitionTable.ofExpr config' := by
  have found : ∀ {state m on}, (TransitionTable.ofExpr config).find? state = some m →
      config.Reacts state on → m = .ofDisplay on := by
    intro state m on hm hon
    obtain ⟨on', hon', rfl⟩ := TransitionTable.find?_ofExpr_iff.1 hm
    rw [hon'.unique hon]
  refine ⟨⟨?_, ?_, ?_, ?_, ?_, ?_⟩, fun _ => ofExpr_eq_of_agreesWith⟩
  · intro state
    rw [OrderedMap.mem_keys_iff]
    constructor
    · rintro ⟨m, hm⟩
      obtain ⟨on, hon, -⟩ := TransitionTable.find?_ofExpr_iff.1 hm
      exact ⟨on, hon⟩
    · rintro ⟨on, hon⟩
      exact ⟨_, TransitionTable.find?_ofExpr_iff.2 ⟨on, hon, rfl⟩⟩
  · intro state message ts
    constructor
    · rintro ⟨m, hm, hts⟩
      obtain ⟨on, hon, rfl⟩ := TransitionTable.find?_ofExpr_iff.1 hm
      exact ⟨on, hon, MessageTargets.find?_ofDisplay_iff.1 hts⟩
    · rintro ⟨on, hon, hts⟩
      exact ⟨_, TransitionTable.find?_ofExpr_iff.2 ⟨on, hon, rfl⟩,
        MessageTargets.find?_ofDisplay_iff.2 hts⟩
  · rintro span es rfl
    exact OrderedMap.pairwise_keys_filterMap (pairwise_keyPlace_textEntries es) _
  · intro state m on hm hon
    rw [found hm hon]
    exact OrderedMap.pairwise_keys_filterMap (pairwise_keyPlace_textEntries on) _
  · rintro span es state v rfl hentry hv
    exact TransitionTable.not_mem_keys_of_effective hentry hv
  · intro state m on message v hm hon hentry hv
    rw [found hm hon]
    exact MessageTargets.not_mem_keys_of_effective hentry hv

/-! ### A `config` with a repeated state -/

/-- `{"on": {message: [target, …]}}`. -/
def reaction (message : String) (targets : List String) : Expr :=
  .dict default (displayOf [("on", .dict default (displayOf
    [(message, .sequence default .list (targets.map (.text default)))]))])

/-- `{"idle": {"on": {"go": ["a", "b"]}}, "busy": {"on": {"stop": ["a"]}}, …,
"idle": 0}`, with more entries before the last. -/
def repeatedIdle (more : List Entry) : Expr :=
  .dict default (displayOf [("idle", reaction "go" ["a", "b"]), ("busy", reaction "stop" ["a"])]
    ++ more ++ displayOf [("idle", .constant default)])

/-- The last entry for `idle` leaves only `busy`, and a spread entry changes
nothing. -/
theorem table_exact_repeatedIdle :
    let spread := [Entry.spread (.name default "shared" .load)]
    TransitionTable.ofExpr (repeatedIdle spread) = TransitionTable.ofExpr (repeatedIdle []) ∧
      "idle" ∉ (TransitionTable.ofExpr (repeatedIdle spread)).keys ∧
      ∃ m, (TransitionTable.ofExpr (repeatedIdle spread)).find? "busy" = some m ∧
        m.find? "stop" = some ["a"] := by
  intro spread
  obtain ⟨reads, independent⟩ := table_exact (repeatedIdle spread)
  refine ⟨independent _ (.display ?_), ?_, ?_⟩
  · exact List.forall₂_same.2 fun p _ => ⟨rfl, .same p.2⟩
  · refine reads.unreadable_state _ _ _ (.constant default) rfl (find?_textEntries_iff.1 rfl) ?_
    rintro ⟨inner, on, ⟨s, heq⟩, -⟩
    simp at heq
  · refine (reads.targets _ _ _).2 ⟨_, ⟨default, _, _, rfl, ⟨default, find?_textEntries_iff.1 rfl⟩,
      ⟨default, find?_textEntries_iff.1 rfl⟩⟩, by simp, default, .list, _,
      find?_textEntries_iff.1 rfl, rfl⟩

end StateCoverage
