import StateCoverage.Proofs.TransitionTable

/-!
# Dict displays as ordered maps

Everything the analysis reads goes through the string-literal keys of a dict
display.  What it reads is the map that evaluating the display would give, as
far as the keys are string literals: keys stand in the order in which they first
occur, and the last value of a key counts.

* `OrderedMap.update` — one map with all entries of another put into it.
* `OrderedMap.ofList_append` — reading two lists one after the other is updating
  what the first gives with what the second gives.
* `Entry.Ignored` — the entries that leave no trace.
* `textEntries_semantics` — the laws of reading a display.
-/

namespace StateCoverage

/-! ## Updating a map -/

namespace OrderedMap

variable {β : Type}

theorem keys_insert (m : OrderedMap β) (k : String) (v : β) :
    (m.insert k v).keys = if k ∈ m.keys then m.keys else m.keys ++ [k] :=
  keys_put k v m.entries

/-- The entries are the keys in their order, each with what is found under it. -/
theorem entries_eq_filterMap_keys (m : OrderedMap β) :
    m.entries = m.keys.filterMap fun k => (m.find? k).map (k, ·) := by
  have found : ∀ p ∈ m.entries, (m.find? p.1).map (p.1, ·) = some p := by
    intro p hp
    rw [mem_entries_iff.1 hp]
    rfl
  rw [keys, List.filterMap_map]
  calc m.entries = m.entries.filterMap some := List.filterMap_some.symm
    _ = _ := List.filterMap_congr fun p hp => (found p hp).symm

theorem ext_of_find? {m n : OrderedMap β} (hkeys : m.keys = n.keys)
    (hfind : ∀ k, m.find? k = n.find? k) : m = n := by
  have entries : m.entries = n.entries := by
    rw [entries_eq_filterMap_keys, entries_eq_filterMap_keys n, hkeys]
    simp only [hfind]
  cases m
  cases n
  rwa [mk.injEq]

/-- Inserts some entries, first to last. -/
def insertAll (m : OrderedMap β) (ps : List (String × β)) : OrderedMap β :=
  ps.foldl (fun m p => m.insert p.1 p.2) m

@[simp] theorem insertAll_concat (m : OrderedMap β) (ps : List (String × β)) (p : String × β) :
    m.insertAll (ps ++ [p]) = (m.insertAll ps).insert p.1 p.2 := by
  rw [insertAll, List.foldl_append]
  rfl

theorem find?_insertAll (m : OrderedMap β) (ps : List (String × β)) (k : String) :
    (m.insertAll ps).find? k = ((ofList ps).find? k).or (m.find? k) := by
  induction ps using List.reverseRecOn with
  | nil => rfl
  | append_singleton ps p ih =>
    rw [insertAll_concat, ofList_concat, find?_insert, find?_insert, ih]
    by_cases hk : k = p.1 <;> simp [hk]

theorem keys_insertAll (m : OrderedMap β) (ps : List (String × β)) :
    (m.insertAll ps).keys = m.keys ++ (ofList ps).keys.filter (· ∉ m.keys) := by
  induction ps using List.reverseRecOn with
  | nil => exact (List.append_nil _).symm
  | append_singleton ps p ih =>
    rw [insertAll_concat, ofList_concat, keys_insert, keys_insert, ih]
    by_cases hold : p.1 ∈ m.keys
    · rw [if_pos (List.mem_append_left _ hold)]
      split <;> simp [hold]
    · by_cases hnew : p.1 ∈ (ofList ps).keys <;> simp [hold, hnew]

theorem put_of_notMem {k : String} {ps : List (String × β)} (hk : k ∉ ps.map Prod.fst) (v : β) :
    put k v ps = ps ++ [(k, v)] := by
  induction ps with
  | nil => rfl
  | cons p ps ih =>
    rw [List.map_cons, List.mem_cons, not_or] at hk
    rw [put, if_neg (Ne.symm hk.1), ih hk.2, List.cons_append]

/-- Nothing happens to entries whose keys are distinct. -/
theorem entries_ofList_of_nodup {ps : List (String × β)} (distinct : (ps.map Prod.fst).Nodup) :
    (ofList ps).entries = ps := by
  induction ps using List.reverseRecOn with
  | nil => rfl
  | append_singleton ps p ih =>
    rw [List.map_append, List.nodup_append] at distinct
    obtain ⟨before, -, apart⟩ := distinct
    have fresh : p.1 ∉ ps.map Prod.fst := fun h => apart p.1 h p.1 (by simp) rfl
    rw [ofList_concat]
    show put p.1 p.2 (ofList ps).entries = _
    rw [ih before, put_of_notMem fresh]

theorem ofList_entries (m : OrderedMap β) : ofList m.entries = m := by
  have entries := entries_ofList_of_nodup m.distinct
  cases m
  rwa [← mk.injEq] at entries

/-- Puts all entries of a second map into a first one. -/
def update (m n : OrderedMap β) : OrderedMap β :=
  m.insertAll n.entries

/-- The values of the second map win. -/
theorem find?_update (m n : OrderedMap β) (k : String) :
    (m.update n).find? k = (n.find? k).or (m.find? k) := by
  rw [update, find?_insertAll, ofList_entries]

/-- The keys of the first map keep their places, and the new ones follow. -/
theorem keys_update (m n : OrderedMap β) :
    (m.update n).keys = m.keys ++ n.keys.filter (· ∉ m.keys) := by
  rw [update, keys_insertAll, ofList_entries]

theorem ofList_append (ps qs : List (String × β)) :
    ofList (ps ++ qs) = (ofList ps).update (ofList qs) := by
  have hsplit : ofList (ps ++ qs) = (ofList ps).insertAll qs := List.foldl_append
  rw [hsplit]
  refine ext_of_find? ?_ ?_
  · rw [keys_insertAll, keys_update]
  · intro k
    rw [find?_insertAll, find?_update]

end OrderedMap

/-! ## Displays -/

/-- The entry has no string-literal key: it is spread, or its key is another
expression. -/
inductive Entry.Ignored : Entry → Prop
  | spread (v : Expr) : Ignored (.spread v)
  | otherKey (k v : Expr) (other : ∀ span s, k ≠ .text span s) : Ignored (.pair k v)

theorem Entry.textual?_eq_none_iff {e : Entry} : e.textual? = none ↔ e.Ignored := by
  constructor
  · intro h
    cases e with
    | spread v => exact .spread v
    | pair k v =>
      refine .otherKey k v ?_
      rintro span s rfl
      cases h
  · rintro (⟨v⟩ | ⟨k, v, other⟩)
    · rfl
    · rw [Entry.textual?]
      rintro span s w heq
      exact other span s (Entry.pair.inj heq).1

theorem mem_keys_textEntries_iff {es : List Entry} {k : String} :
    k ∈ (textEntries es).keys ↔ ∃ span v, Entry.pair (.text span k) v ∈ es := by
  rw [textEntries, OrderedMap.keys_ofList, List.mem_eraseDups]
  simp only [List.mem_map, List.mem_filterMap, Prod.exists, exists_and_right, exists_eq_right,
    Entry.textual?_eq_some_iff]
  constructor
  · rintro ⟨v, e, he, span, rfl⟩
    exact ⟨span, v, he⟩
  · rintro ⟨span, v, he⟩
    exact ⟨v, _, he, span, rfl⟩

theorem textEntries_ignored {e : Entry} (h : e.Ignored) (before after : List Entry) :
    textEntries (before ++ e :: after) = textEntries (before ++ after) := by
  rw [textEntries, textEntries, List.filterMap_append, List.filterMap_append,
    List.filterMap_cons_none (Entry.textual?_eq_none_iff.2 h)]

theorem textEntries_append (es fs : List Entry) :
    textEntries (es ++ fs) = (textEntries es).update (textEntries fs) := by
  rw [textEntries, List.filterMap_append, OrderedMap.ofList_append]
  rfl

/-- The map holds the string-literal keys of a display, each once and by its
first occurrence, with the value of its last. -/
structure OrderedMap.ReadsDisplay (m : OrderedMap Expr) (es : List Entry) : Prop where
  mem_keys : ∀ k, k ∈ m.keys ↔ ∃ span v, Entry.pair (.text span k) v ∈ es
  nodup_keys : m.keys.Nodup
  keys_order : m.keys.Pairwise fun j k => keyPlace es j < keyPlace es k
  value : ∀ k v, m.find? k = some v ↔ EffectiveEntry es k v

theorem readsDisplay_textEntries (es : List Entry) : (textEntries es).ReadsDisplay es where
  mem_keys _ := mem_keys_textEntries_iff
  nodup_keys := (textEntries es).distinct
  keys_order := List.pairwise_map.2 (pairwise_keyPlace_textEntries es)
  value _ _ := find?_textEntries_iff

/-- **Reading a display has the semantics of an ordered map.**  The keys are the
distinct string-literal keys by first occurrence, each with its last value; an
entry without such a key leaves no trace; and the reading of two displays written
as one is that of the first, updated with that of the second. -/
theorem textEntries_semantics (span : Span) (es : List Entry) :
    (∃ m, (Expr.dict span es).textEntries? = some m ∧ m.ReadsDisplay es) ∧
    (∀ before e after, es = before ++ e :: after → e.Ignored →
      (Expr.dict span es).textEntries? = (Expr.dict span (before ++ after)).textEntries?) ∧
    (∀ ds fs span₁ span₂, es = ds ++ fs → ∃ m n,
      (Expr.dict span₁ ds).textEntries? = some m ∧ (Expr.dict span₂ fs).textEntries? = some n ∧
      (Expr.dict span es).textEntries? = some (m.update n) ∧
      (m.update n).keys = m.keys ++ n.keys.filter (· ∉ m.keys) ∧
      ∀ k, (m.update n).find? k = (n.find? k).or (m.find? k)) := by
  refine ⟨⟨textEntries es, rfl, readsDisplay_textEntries es⟩, ?_, ?_⟩
  · rintro before e after rfl ignored
    exact congrArg some (textEntries_ignored ignored before after)
  · rintro ds fs span₁ span₂ rfl
    exact ⟨textEntries ds, textEntries fs, rfl, rfl, congrArg some (textEntries_append ds fs),
      OrderedMap.keys_update _ _, OrderedMap.find?_update _ _⟩

/-- `{"a": x, **rest, "b": y}`. -/
def spreadDisplay : List Entry :=
  displayOf [("a", .name default "x" .load)] ++
    .spread (.name default "rest" .load) :: displayOf [("b", .name default "y" .load)]

/-- `{"c": z, "a": z}`. -/
def laterDisplay : List Entry :=
  displayOf [("c", .name default "z" .load), ("a", .name default "z" .load)]

/-- Written as one display, `a` keeps its place and takes the later value. -/
theorem textEntries_semantics_spread :
    ∃ m, (Expr.dict default (spreadDisplay ++ laterDisplay)).textEntries? = some m ∧
      m.keys = ["a", "b", "c"] ∧ m.find? "a" = some (.name default "z" .load) ∧
      (Expr.dict default spreadDisplay).textEntries? =
        (Expr.dict default (displayOf [("a", .name default "x" .load)] ++
          displayOf [("b", .name default "y" .load)])).textEntries? := by
  obtain ⟨-, -, merged⟩ := textEntries_semantics default (spreadDisplay ++ laterDisplay)
  obtain ⟨-, dropped, -⟩ := textEntries_semantics default spreadDisplay
  obtain ⟨m, n, hm, hn, hmn, hkeys, hfind⟩ := merged _ _ default default rfl
  obtain rfl : textEntries spreadDisplay = m := Option.some.inj hm
  obtain rfl : textEntries laterDisplay = n := Option.some.inj hn
  refine ⟨_, hmn, ?_, ?_, dropped _ _ _ rfl (.spread _)⟩
  · rw [hkeys]
    decide
  · rw [hfind]
    rfl

end StateCoverage
