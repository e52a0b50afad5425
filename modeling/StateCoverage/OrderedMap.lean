/-!
# Maps that remember the order of their keys

An `OrderedMap` lists its keys in the order of their first insertion and holds
for each the value inserted last.  Keys are distinct by construction.

* `OrderedMap.insert` — a new key goes to the end, a known key keeps its place.
* `OrderedMap.ofList` — the map of a list of insertions, first to last.
-/

namespace StateCoverage

/-- A map from strings that keeps the order of first insertion. -/
structure OrderedMap (β : Type u) where
  entries : List (String × β)
  distinct : (entries.map Prod.fst).Nodup

namespace OrderedMap

variable {β : Type u} {γ : Type v}

/-- Gives `k` the value `v`, in place if `k` is there and at the end if not. -/
def put (k : String) (v : β) : List (String × β) → List (String × β)
  | [] => [(k, v)]
  | p :: ps => if p.1 = k then (k, v) :: ps else p :: put k v ps

theorem keys_put (k : String) (v : β) (ps : List (String × β)) :
    (put k v ps).map Prod.fst =
      if k ∈ ps.map Prod.fst then ps.map Prod.fst else ps.map Prod.fst ++ [k] := by
  induction ps with
  | nil => simp [put]
  | cons p ps ih =>
    by_cases h : p.1 = k
    · simp [put, h]
    · have h' : ¬k = p.1 := fun e => h e.symm
      simp only [put, h, if_false, List.map_cons, ih, List.mem_cons, h', false_or]
      split <;> simp

theorem nodup_put (k : String) (v : β) {ps : List (String × β)}
    (h : (ps.map Prod.fst).Nodup) : ((put k v ps).map Prod.fst).Nodup := by
  rw [keys_put]
  split
  · exact h
  · rename_i hk
    exact List.nodup_append.2 ⟨h, by simp, by
      intro a ha b hb
      rw [List.mem_singleton] at hb
      subst hb
      intro e
      exact hk (e ▸ ha)⟩

/-- The map without entries. -/
def empty : OrderedMap β := ⟨[], by simp⟩

instance : Inhabited (OrderedMap β) := ⟨empty⟩

/-- Inserts a key, or replaces the value of a key in place. -/
def insert (m : OrderedMap β) (k : String) (v : β) : OrderedMap β :=
  ⟨put k v m.entries, nodup_put k v m.distinct⟩

/-- The map that a list of insertions leaves. -/
def ofList (ps : List (String × β)) : OrderedMap β :=
  ps.foldl (fun m p => m.insert p.1 p.2) empty

/-- The value of a key. -/
def find? (m : OrderedMap β) (k : String) : Option β :=
  m.entries.lookup k

/-- The keys in order of first insertion. -/
def keys (m : OrderedMap β) : List String :=
  m.entries.map Prod.fst

/-- Keeps, with a new value, the entries that `f` accepts. -/
def filterMap (f : String → β → Option γ) (m : OrderedMap β) : OrderedMap γ where
  entries := m.entries.filterMap fun p => (f p.1 p.2).map (p.1, ·)
  distinct := by
    have sub : (m.entries.filterMap fun p => (f p.1 p.2).map (p.1, ·)).map Prod.fst
        |>.Sublist (m.entries.map Prod.fst) := by
      induction m.entries with
      | nil => simp
      | cons p ps ih =>
        cases h : f p.1 p.2 with
        | none => simpa [List.filterMap_cons, h] using ih.cons p.1
        | some v => simpa [List.filterMap_cons, h] using ih
    exact m.distinct.sublist sub

end OrderedMap

end StateCoverage
