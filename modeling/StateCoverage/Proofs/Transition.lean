import StateCoverage.Proofs.Entries
import StateCoverage.Transition

/-!
# What a `config` display declares

The table of a `config` display is read through three levels of displays, and
at each level only the last entry under a key counts.  `Declares` says so
directly, and `find?_ofDisplay_iff` shows that the table holds just that, less
the messages that declare no target at all.
-/

namespace StateCoverage

/-- The last entry of the display under `k` is itself a dict display, with the
given entries. -/
def EffectiveDisplay (es : List Entry) (k : String) (inner : List Entry) : Prop :=
  ∃ span, EffectiveEntry es k (.dict span inner)

/-- In `config`, the last entry for `state` is a display, whose last `on` entry
is a display, whose last entry for `message` is a list or tuple display, and
`targets` are its string literals in order. -/
def Declares (config : List Entry) (state message : String) (targets : List String) : Prop :=
  ∃ inner on span form elements, EffectiveDisplay config state inner ∧
    EffectiveDisplay inner "on" on ∧ EffectiveEntry on message (.sequence span form elements) ∧
    elements.filterMap Expr.text? = targets

/-! ## Reading expressions -/

theorem Expr.dict?_eq_some_iff {e : Expr} {es : List Entry} :
    e.dict? = some es ↔ ∃ span, e = .dict span es := by
  constructor
  · intro h
    cases e <;> simp [Expr.dict?] at h
    subst h
    exact ⟨_, rfl⟩
  · rintro ⟨span, rfl⟩
    rfl

theorem Expr.textEntries?_eq_some_iff {e : Expr} {m : OrderedMap Expr} :
    e.textEntries? = some m ↔ ∃ span es, e = .dict span es ∧ m = textEntries es := by
  simp only [Expr.textEntries?, Option.map_eq_some_iff, Expr.dict?_eq_some_iff]
  constructor
  · rintro ⟨es, ⟨span, rfl⟩, rfl⟩
    exact ⟨span, es, rfl, rfl⟩
  · rintro ⟨span, es, rfl, rfl⟩
    exact ⟨es, ⟨span, rfl⟩, rfl⟩

/-- Looking up a key and finding a display there. -/
theorem bind_dict?_textEntries_iff {es inner : List Entry} {k : String} :
    ((textEntries es).find? k).bind Expr.dict? = some inner ↔ EffectiveDisplay es k inner := by
  simp only [Option.bind_eq_some_iff, find?_textEntries_iff, Expr.dict?_eq_some_iff]
  constructor
  · rintro ⟨e, he, span, rfl⟩
    exact ⟨span, he⟩
  · rintro ⟨span, he⟩
    exact ⟨_, he, span, rfl⟩

/-- Texts are read off a list or tuple display only. -/
theorem Expr.texts_eq_iff {e : Expr} {ts : List String} (hne : ts ≠ []) :
    e.texts = ts ↔ ∃ span form elements, e = .sequence span form elements ∧
      elements.filterMap Expr.text? = ts := by
  constructor
  · intro h
    cases e with
    | sequence span form elements => exact ⟨span, form, elements, rfl, h⟩
    | _ => exact absurd h.symm hne
  · rintro ⟨span, form, elements, rfl, h⟩
    exact h

/-! ## The table -/

/-- A message has targets if the display under it has at least one text. -/
theorem MessageTargets.find?_ofDisplay_iff {on : List Entry} {message : String}
    {D : List String} : (MessageTargets.ofDisplay on).find? message = some D ↔
      D ≠ [] ∧ ∃ span form elements, EffectiveEntry on message (.sequence span form elements) ∧
        elements.filterMap Expr.text? = D := by
  simp only [MessageTargets.ofDisplay, OrderedMap.find?_filterMap, Option.bind_eq_some_iff,
    find?_textEntries_iff, List.isEmpty_iff, Option.ite_none_left_eq_some, Option.some.injEq]
  constructor
  · rintro ⟨e, he, htexts, hD⟩
    have hne : D ≠ [] := hD ▸ htexts
    obtain ⟨span, form, elements, heq, helements⟩ := (Expr.texts_eq_iff hne).1 hD
    exact ⟨hne, span, form, elements, heq ▸ he, helements⟩
  · rintro ⟨hne, span, form, elements, he, helements⟩
    have hD := (Expr.texts_eq_iff hne).2 ⟨span, form, elements, rfl, helements⟩
    exact ⟨_, he, hD ▸ hne, hD⟩

/-- A state counts if it is a display with a display under `on`. -/
theorem MessageTargets.ofState?_eq_some_iff {state : Expr} {targets : MessageTargets} :
    MessageTargets.ofState? state = some targets ↔
      ∃ inner on, (∃ span, state = .dict span inner) ∧ EffectiveDisplay inner "on" on ∧
        targets = .ofDisplay on := by
  simp only [MessageTargets.ofState?, Expr.textEntries?, Option.bind_eq_bind,
    Option.bind_eq_some_iff, Option.map_eq_some_iff, Option.pure_def, Option.some.injEq,
    ← bind_dict?_textEntries_iff, ← Expr.dict?_eq_some_iff]
  constructor
  · rintro ⟨_, ⟨inner, hinner, rfl⟩, e, he, on, hon, rfl⟩
    exact ⟨inner, on, hinner, ⟨e, he, hon⟩, rfl⟩
  · rintro ⟨inner, on, hinner, ⟨e, he, hon⟩, rfl⟩
    exact ⟨_, ⟨inner, hinner, rfl⟩, e, he, on, hon, rfl⟩

/-- The states of a table are those with a display under `on`. -/
theorem TransitionTable.find?_ofDisplay_iff {config : List Entry} {state : String}
    {targets : MessageTargets} : (TransitionTable.ofDisplay config).find? state = some targets ↔
      ∃ inner on, EffectiveDisplay config state inner ∧ EffectiveDisplay inner "on" on ∧
        targets = .ofDisplay on := by
  simp only [TransitionTable.ofDisplay, OrderedMap.find?_filterMap, Option.bind_eq_some_iff,
    find?_textEntries_iff, MessageTargets.ofState?_eq_some_iff]
  constructor
  · rintro ⟨e, he, inner, on, ⟨span, rfl⟩, hon, rfl⟩
    exact ⟨inner, on, ⟨span, he⟩, hon, rfl⟩
  · rintro ⟨inner, on, ⟨span, he⟩, hon, rfl⟩
    exact ⟨_, he, inner, on, ⟨span, rfl⟩, hon, rfl⟩

/-- The table has a list of targets for a transition exactly when the display
declares it and it is not empty. -/
theorem find?_find?_table_iff {config : List Entry} {state message : String} {D : List String} :
    (∃ targets, (TransitionTable.ofDisplay config).find? state = some targets ∧
      targets.find? message = some D) ↔ D ≠ [] ∧ Declares config state message D := by
  constructor
  · rintro ⟨targets, htable, hD⟩
    obtain ⟨inner, on, hstate, hon, rfl⟩ := TransitionTable.find?_ofDisplay_iff.1 htable
    obtain ⟨hne, span, form, elements, hmsg, helements⟩ := MessageTargets.find?_ofDisplay_iff.1 hD
    exact ⟨hne, inner, on, span, form, elements, hstate, hon, hmsg, helements⟩
  · rintro ⟨hne, inner, on, span, form, elements, hstate, hon, hmsg, helements⟩
    exact ⟨_, TransitionTable.find?_ofDisplay_iff.2 ⟨inner, on, hstate, hon, rfl⟩,
      MessageTargets.find?_ofDisplay_iff.2 ⟨hne, span, form, elements, hmsg, helements⟩⟩

end StateCoverage
