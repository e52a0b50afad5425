import Mathlib.Data.List.Basic
import Mathlib.Data.List.Induction
import StateCoverage.Source.Display

/-!
# What a display says under a key

A dict display may repeat a key.  The entry that counts is then the last one,
and the place that counts is that of the first.  This file says both without
any map, and shows that `OrderedMap.ofList` computes exactly that.

* `EffectiveEntry` — the value of the last entry under a string-literal key,
  which is what `textEntries` finds (`find?_textEntries_iff`).
* `keyPlace` — where a key stands first; `textEntries` lists its entries by
  increasing place (`pairwise_keyPlace_textEntries`).
-/

namespace StateCoverage

universe u v w

variable {α : Type u} {β : Type v} {γ : Type w}

/-! ## The last item under a key -/

/-- `v` is read under `k` from an item of the list, and nothing is read under
`k` from the items after it. -/
def LastUnder (read : α → Option (String × β)) (xs : List α) (k : String) (v : β) : Prop :=
  ∃ before x after, xs = before ++ x :: after ∧ read x = some (k, v) ∧
    ∀ y ∈ after, ∀ w, read y ≠ some (k, w)

theorem not_lastUnder_nil {read : α → Option (String × β)} {k : String} {v : β} :
    ¬LastUnder read [] k v := by
  rintro ⟨before, x, after, h, -, -⟩
  simp at h

/-- One more item: it is the last under its key, and changes nothing under others.
-/
theorem lastUnder_concat {read : α → Option (String × β)} {xs : List α} {x : α} {k : String}
    {v : β} : LastUnder read (xs ++ [x]) k v ↔
      read x = some (k, v) ∨ (∀ w, read x ≠ some (k, w)) ∧ LastUnder read xs k v := by
  constructor
  · rintro ⟨before, y, after, hxs, hy, hafter⟩
    rcases List.eq_nil_or_concat after with rfl | ⟨after, z, rfl⟩
    · obtain ⟨-, hxy⟩ := List.append_inj' hxs rfl
      rw [List.singleton_inj] at hxy
      exact .inl (hxy ▸ hy)
    · rw [List.concat_eq_append, ← List.cons_append, ← List.append_assoc] at hxs
      obtain ⟨hinit, hxz⟩ := List.append_inj' hxs rfl
      rw [List.singleton_inj] at hxz
      subst hxz
      refine .inr ⟨hafter x (by simp), before, y, after, hinit, hy, ?_⟩
      intro w hw
      exact hafter w (by simp [hw])
  · rintro (hx | ⟨hx, before, y, after, rfl, hy, hafter⟩)
    · exact ⟨xs, x, [], rfl, hx, by simp⟩
    · refine ⟨before, y, after ++ [x], by simp, hy, ?_⟩
      intro z hz
      rcases List.mem_append.1 hz with hz | hz
      · exact hafter z hz
      · rw [List.mem_singleton.1 hz]
        exact hx

/-! ## Maps in order of insertion -/

namespace OrderedMap

theorem lookup_cons_eq_ite (j k : String) (v : β) (ps : List (String × β)) :
    ((k, v) :: ps).lookup j = if j = k then some v else ps.lookup j := by
  by_cases h : j = k
  · subst h
    simp
  · have hjk : (j == k) = false := by simpa using h
    rw [List.lookup_cons, hjk, if_neg h]

/-- Putting a value changes what is found under its key only. -/
theorem lookup_put (j k : String) (v : β) (ps : List (String × β)) :
    (put k v ps).lookup j = if j = k then some v else ps.lookup j := by
  induction ps with
  | nil => exact lookup_cons_eq_ite j k v []
  | cons p ps ih =>
    obtain ⟨i, u⟩ := p
    rw [put]
    by_cases hik : i = k
    · subst hik
      rw [if_pos rfl, lookup_cons_eq_ite, lookup_cons_eq_ite]
      by_cases hj : j = i <;> simp [hj]
    · rw [if_neg hik, lookup_cons_eq_ite, lookup_cons_eq_ite, ih]
      by_cases hj : j = i
      · subst hj
        simp [hik]
      · rw [if_neg hj, if_neg hj]

@[simp] theorem find?_insert (m : OrderedMap β) (j k : String) (v : β) :
    (m.insert k v).find? j = if j = k then some v else m.find? j :=
  lookup_put j k v m.entries

@[simp] theorem ofList_concat (ps : List (String × β)) (p : String × β) :
    ofList (ps ++ [p]) = (ofList ps).insert p.1 p.2 := by
  rw [ofList, List.foldl_append]
  rfl

/-- The value under a key is the one inserted last. -/
theorem find?_ofList_filterMap_iff {read : α → Option (String × β)} {xs : List α} {k : String}
    {v : β} : (ofList (xs.filterMap read)).find? k = some v ↔ LastUnder read xs k v := by
  induction xs using List.reverseRecOn with
  | nil => exact iff_of_false (by simp [ofList, find?, empty]) not_lastUnder_nil
  | append_singleton xs x ih =>
    rw [lastUnder_concat, List.filterMap_append]
    cases hx : read x with
    | none => simpa [hx] using ih
    | some p =>
      obtain ⟨j, u⟩ := p
      rw [show [x].filterMap read = [(j, u)] by simp [hx], ofList_concat, find?_insert]
      by_cases hk : k = j
      · subst hk
        simp
      · rw [if_neg hk, ih]
        have hjk : ¬j = k := fun h => hk h.symm
        simp [hjk]

/-- The entries of a map are what is found in it. -/
theorem mem_entries_iff {m : OrderedMap β} {k : String} {v : β} :
    (k, v) ∈ m.entries ↔ m.find? k = some v := by
  obtain ⟨ps, distinct⟩ := m
  show (k, v) ∈ ps ↔ ps.lookup k = some v
  induction ps with
  | nil => simp
  | cons p ps ih =>
    obtain ⟨j, u⟩ := p
    rw [List.map_cons, List.nodup_cons] at distinct
    by_cases hk : k = j
    · subst hk
      have fresh : (k, v) ∉ ps := fun h => distinct.1 (List.mem_map.2 ⟨(k, v), h, rfl⟩)
      simp [fresh, eq_comm]
    · rw [List.mem_cons, ih distinct.2, lookup_cons_eq_ite, if_neg hk]
      simp [hk]

theorem find?_filterMap (f : String → β → Option γ) (m : OrderedMap β) (k : String) :
    (m.filterMap f).find? k = (m.find? k).bind (f k) := by
  ext w
  rw [← mem_entries_iff, Option.bind_eq_some_iff]
  simp only [filterMap, List.mem_filterMap, Option.map_eq_some_iff]
  constructor
  · rintro ⟨⟨j, u⟩, hmem, x, hx, heq⟩
    obtain ⟨rfl, rfl⟩ := Prod.mk.inj heq
    exact ⟨u, mem_entries_iff.1 hmem, hx⟩
  · rintro ⟨u, hu, hw⟩
    exact ⟨(k, u), mem_entries_iff.2 hu, w, hw, rfl⟩

/-- Keys stand in the order of their first insertion. -/
theorem keys_ofList (ps : List (String × β)) :
    (ofList ps).keys = (ps.map Prod.fst).eraseDups := by
  induction ps using List.reverseRecOn with
  | nil => rfl
  | append_singleton ps p ih =>
    have hkeys : ((ofList ps).insert p.1 p.2).keys =
        if p.1 ∈ (ofList ps).keys then (ofList ps).keys else (ofList ps).keys ++ [p.1] :=
      keys_put p.1 p.2 (ofList ps).entries
    rw [ofList_concat, hkeys, ih, List.map_append, List.eraseDups_append]
    by_cases hp : p.1 ∈ ps.map Prod.fst
    · rw [if_pos (List.mem_eraseDups.2 hp)]
      simp [List.removeAll, hp]
    · rw [if_neg (fun h => hp (List.mem_eraseDups.1 h))]
      simp [List.removeAll, hp, List.eraseDups_cons]

end OrderedMap

/-- What is left after dropping repetitions stands by first occurrence. -/
theorem pairwise_idxOf_eraseDups (ks : List String) :
    ks.eraseDups.Pairwise fun i j => ks.idxOf i < ks.idxOf j := by
  induction ks using List.reverseRecOn with
  | nil => exact List.Pairwise.nil
  | append_singleton ks k ih =>
    have old : ∀ i ∈ ks.eraseDups, (ks ++ [k]).idxOf i = ks.idxOf i := fun i hi =>
      List.idxOf_append_of_mem (List.mem_eraseDups.1 hi)
    rw [List.eraseDups_append, List.pairwise_append]
    refine ⟨?_, ?_, ?_⟩
    · refine ih.imp_of_mem ?_
      intro i j hi hj hij
      rwa [old i hi, old j hj]
    · by_cases hk : k ∈ ks <;> simp [List.removeAll, hk, List.eraseDups_cons]
    · intro i hi j hj
      rw [List.mem_eraseDups] at hj
      simp only [List.removeAll, List.mem_filter, List.mem_singleton] at hj
      obtain ⟨rfl, hj⟩ := hj
      have hj : j ∉ ks := by simpa using hj
      rw [old i hi, List.idxOf_append_of_notMem hj]
      have := List.idxOf_lt_length_of_mem (List.mem_eraseDups.1 hi)
      omega

/-! ## Dict displays -/

/-- `v` is the value of the last entry of the display under the string literal
`k`. -/
def EffectiveEntry (es : List Entry) (k : String) (v : Expr) : Prop :=
  ∃ before span after, es = before ++ .pair (.text span k) v :: after ∧
    ∀ span' w, Entry.pair (.text span' k) w ∉ after

/-- The entries that are read are those with a text for a key. -/
theorem Entry.textual?_eq_some_iff {e : Entry} {k : String} {v : Expr} :
    e.textual? = some (k, v) ↔ ∃ span, e = .pair (.text span k) v := by
  constructor
  · intro h
    unfold Entry.textual? at h
    split at h
    · rename_i span j u
      obtain ⟨rfl, rfl⟩ := Prod.mk.inj (Option.some.inj h)
      exact ⟨span, rfl⟩
    · cases h
  · rintro ⟨span, rfl⟩
    rfl

/-- The last entry under a string literal is the last that is read under it. -/
theorem lastUnder_textual?_iff {es : List Entry} {k : String} {v : Expr} :
    LastUnder Entry.textual? es k v ↔ EffectiveEntry es k v := by
  constructor
  · rintro ⟨before, x, after, rfl, hx, hafter⟩
    obtain ⟨span, rfl⟩ := Entry.textual?_eq_some_iff.1 hx
    exact ⟨before, span, after, rfl, fun span' w hmem => hafter _ hmem w rfl⟩
  · rintro ⟨before, span, after, rfl, hafter⟩
    refine ⟨before, _, after, rfl, rfl, fun y hy w hw => ?_⟩
    obtain ⟨span', rfl⟩ := Entry.textual?_eq_some_iff.1 hw
    exact hafter span' w hy

/-- The value that is read under a key is the last one written under it. -/
theorem find?_textEntries_iff {es : List Entry} {k : String} {v : Expr} :
    (textEntries es).find? k = some v ↔ EffectiveEntry es k v :=
  OrderedMap.find?_ofList_filterMap_iff.trans lastUnder_textual?_iff

/-- The value of an effective entry is the value of an entry of the display. -/
theorem EffectiveEntry.mem {es : List Entry} {k : String} {v : Expr}
    (h : EffectiveEntry es k v) : ∃ span, Entry.pair (.text span k) v ∈ es := by
  obtain ⟨before, span, after, rfl, -⟩ := h
  exact ⟨span, by simp⟩

/-- The entry stands under the string literal `k`. -/
def Entry.isUnder (k : String) : Entry → Bool
  | .pair (.text _ j) _ => j = k
  | _ => false

/-- Where the first entry under the string literal `k` stands in a display. -/
def keyPlace (es : List Entry) (k : String) : Nat :=
  es.findIdx (Entry.isUnder k)

theorem Entry.isUnder_of_textual?_eq_none {e : Entry} (h : e.textual? = none) (k : String) :
    e.isUnder k = false := by
  unfold Entry.isUnder
  split
  · exact absurd h (by simp [Entry.textual?])
  · rfl

/-- What stands first among the string-literal keys stands first in the
display. -/
theorem keyPlace_lt_of_idxOf_lt {es : List Entry} {i j : String}
    (h : ((es.filterMap Entry.textual?).map Prod.fst).idxOf i <
      ((es.filterMap Entry.textual?).map Prod.fst).idxOf j) : keyPlace es i < keyPlace es j := by
  induction es with
  | nil => simp at h
  | cons e es ih =>
    rw [keyPlace, keyPlace, List.findIdx_cons, List.findIdx_cons]
    cases hread : e.textual? with
    | none =>
      rw [List.filterMap_cons_none hread] at h
      rw [e.isUnder_of_textual?_eq_none hread, e.isUnder_of_textual?_eq_none hread]
      exact Nat.succ_lt_succ (ih h)
    | some p =>
      obtain ⟨l, v⟩ := p
      obtain ⟨span, rfl⟩ := Entry.textual?_eq_some_iff.1 hread
      rw [List.filterMap_cons_some hread, List.map_cons] at h
      by_cases hj : l = j
      · simp [hj] at h
      · by_cases hi : l = i
        · simp [Entry.isUnder, hi, hi ▸ hj]
        · rw [List.idxOf_cons_ne _ hi, List.idxOf_cons_ne _ hj] at h
          simpa [Entry.isUnder, hi, hj, keyPlace] using ih (Nat.lt_of_succ_lt_succ h)

/-- The readable entries of a display stand by the place of their keys. -/
theorem pairwise_keyPlace_textEntries (es : List Entry) :
    (textEntries es).entries.Pairwise fun p q => keyPlace es p.1 < keyPlace es q.1 := by
  have h := pairwise_idxOf_eraseDups ((es.filterMap Entry.textual?).map Prod.fst)
  rw [← OrderedMap.keys_ofList, OrderedMap.keys, List.pairwise_map] at h
  exact h.imp keyPlace_lt_of_idxOf_lt

end StateCoverage
