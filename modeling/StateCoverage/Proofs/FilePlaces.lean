import Mathlib.Data.List.Basic
import StateCoverage.Files.Discovery
import StateCoverage.Proofs.Entries

/-!
# Files below a folder and the paths to them

A file below a folder is given by the names that lead down to it.  This file
says in which order a walk through the folder comes by the files, and that the
names and the path of a file determine each other.

* `FileTree.HasFile` — some names lead down a tree to a file.
* `ComesBefore` — of two files the one that is found first: the files of a
  folder before those of its folders, and each by name.
* `FileTree.places` — the files below a folder with the names that lead to them:
  all of them (`FileTree.mem_places_iff`), in order (`FileTree.pairwise_places`).
* `pathAlong_injective` — different names make different paths.
* `FileTree.HasFile.find` — the path along the names leads to the file.
-/

namespace StateCoverage

/-! ## Files below a folder -/

/-- Names that an entry of a folder can have. -/
def IsFileName (name : String) : Prop :=
  name ≠ "" ∧ '/' ∉ name.toList ∧ name ≠ "." ∧ name ≠ ".."

instance (name : String) : Decidable (IsFileName name) := inferInstanceAs (Decidable (_ ∧ _))

/-- The names in each folder are distinct, and each can be a name. -/
inductive FileTree.WellFormed : FileTree → Prop
  | file (content : Except String (List UInt8)) : WellFormed (.file content)
  | folder (entries : List (String × FileTree)) (distinct : (entries.map Prod.fst).Nodup)
      (named : ∀ e ∈ entries, IsFileName e.1) (below : ∀ e ∈ entries, e.2.WellFormed) :
      WellFormed (.folder entries)

/-- Names that lead down from a folder to a file, the last being that of the
file. -/
inductive FileTree.HasFile : FileTree → List String → Except String (List UInt8) → Prop
  | entry {entries : List (String × FileTree)} {name : String}
      {content : Except String (List UInt8)} (mem : (name, .file content) ∈ entries) :
      HasFile (.folder entries) [name] content
  | deeper {entries : List (String × FileTree)} {name : String} {t : FileTree}
      {names : List String} {content : Except String (List UInt8)} (mem : (name, t) ∈ entries)
      (rest : t.HasFile names content) : HasFile (.folder entries) (name :: names) content

/-- The path that names lead to from a folder. -/
def pathAlong (path : String) (names : List String) : String :=
  names.foldl joinPath path

/-- Of two files below a folder, given by the names that lead to them, the first
is found before the second. -/
inductive ComesBefore : List String → List String → Prop
  /-- Files of the folder itself stand by name, -/
  | files {a b : String} (lt : a < b) : ComesBefore [a] [b]
  /-- and before those of its folders, -/
  | fileFirst {a b : String} {names : List String} (ne : names ≠ []) :
      ComesBefore [a] (b :: names)
  /-- which stand by the names of the folders, -/
  | folders {a b : String} {names names' : List String} (lt : a < b) (ne : names ≠ [])
      (ne' : names' ≠ []) : ComesBefore (a :: names) (b :: names')
  /-- and in the same way within each. -/
  | inside {a : String} {names names' : List String} (before : ComesBefore names names') :
      ComesBefore (a :: names) (a :: names')

theorem ComesBefore.ne {names names' : List String} (h : ComesBefore names names') :
    names ≠ names' := by
  induction h with
  | files lt => simpa using Std.ne_of_lt lt
  | fileFirst ne => simpa using fun _ => ne
  | folders lt ne ne' => simpa using fun h => absurd h (Std.ne_of_lt lt)
  | inside before ih => simpa using ih

theorem FileTree.HasFile.ne_nil {t : FileTree} {names : List String}
    {content : Except String (List UInt8)} (h : t.HasFile names content) : names ≠ [] := by
  cases h <;> simp

/-- Every name on the way to a file of a well-formed tree can be a name. -/
theorem FileTree.HasFile.isFileName {t : FileTree} {names : List String}
    {content : Except String (List UInt8)} (h : t.HasFile names content) (wf : t.WellFormed) :
    ∀ name ∈ names, IsFileName name := by
  induction h with
  | entry mem =>
    obtain ⟨⟩ | ⟨_, -, named, -⟩ := wf
    intro name hname
    rw [List.mem_singleton.1 hname]
    exact named _ mem
  | deeper mem _ ih =>
    obtain ⟨⟩ | ⟨_, -, named, below⟩ := wf
    intro name hname
    rcases List.mem_cons.1 hname with rfl | hname
    · exact named _ mem
    · exact ih (below _ mem) name hname

/-! ## Sorting by name -/

section Sorting

variable {α β : Type}

@[simp] theorem mem_sortByName {p : String × α} {ps : List (String × α)} :
    p ∈ sortByName ps ↔ p ∈ ps :=
  List.mem_mergeSort

theorem sortByName_map (f : String × α → β) (ps : List (String × α)) :
    sortByName (ps.map fun p => (p.1, f p)) = (sortByName ps).map fun p => (p.1, f p) := by
  rw [sortByName, sortByName, List.map_mergeSort]
  intro p _ q _
  rfl

/-- Items that are sorted by texts, which are distinct, stand in strict order. -/
theorem pairwise_mergeSort_lt (text : α → String) {xs : List α} (distinct : (xs.map text).Nodup) :
    (xs.mergeSort fun x y => decide (text x ≤ text y)).Pairwise fun x y => text x < text y := by
  have sorted : (xs.mergeSort fun x y => decide (text x ≤ text y)).Pairwise fun x y =>
      decide (text x ≤ text y) = true := by
    refine List.pairwise_mergeSort ?_ ?_ xs
    · intro x y z hxy hyz
      exact decide_eq_true (String.le_trans (of_decide_eq_true hxy) (of_decide_eq_true hyz))
    · intro x y
      simpa using String.le_total (text x) (text y)
  have apart : (xs.mergeSort fun x y => decide (text x ≤ text y)).Pairwise fun x y =>
      text x ≠ text y := by
    rw [← List.pairwise_map]
    exact ((List.mergeSort_perm xs _).map text).nodup_iff.2 distinct
  refine sorted.imp₂ ?_ apart
  intro x y hle hne
  exact Std.lt_of_le_of_ne (of_decide_eq_true hle) hne

theorem pairwise_sortByName {ps : List (String × α)} (distinct : (ps.map Prod.fst).Nodup) :
    (sortByName ps).Pairwise fun p q => p.1 < q.1 :=
  pairwise_mergeSort_lt Prod.fst distinct

end Sorting

/-! ## Walking a tree -/

@[elab_as_elim] theorem FileTree.induction {motive : FileTree → Prop}
    (file : ∀ content, motive (.file content))
    (folder : ∀ entries, (∀ e ∈ entries, motive e.2) → motive (.folder entries)) (t : FileTree) :
    motive t := by
  match t with
  | .file content => exact file content
  | .folder entries =>
    refine folder entries ?_
    intro e he
    exact FileTree.induction file folder e.2
termination_by sizeOf t
decreasing_by
  have hsize := List.sizeOf_lt_of_mem he
  obtain ⟨name, below⟩ := e
  simp only [Prod.mk.sizeOf_spec, FileTree.folder.sizeOf_spec] at hsize ⊢
  omega

/-- A file below a folder, with the names that lead to it. -/
structure FilePlace where
  names : List String
  content : Except String (List UInt8)

/-- The file at a place below the folder at a path. -/
def FilePlace.found (path : String) (q : FilePlace) : FoundFile := ⟨pathAlong path q.names, q.content⟩

/-- The place in the folder around it. -/
def FilePlace.within (name : String) (q : FilePlace) : FilePlace := ⟨name :: q.names, q.content⟩

/-- The place of an entry of a folder that is a file. -/
def entryPlace? (entry : String × FileTree) : Option (String × FilePlace) :=
  match entry.2 with
  | .file content => some (entry.1, ⟨[entry.1], content⟩)
  | .folder _ => none

mutual

/-- The places below a folder, in the order of `FileTree.filesBelow`. -/
def FileTree.places : FileTree → List FilePlace
  | .file _ => []
  | .folder entries =>
      (sortByName (entries.filterMap entryPlace?)).map Prod.snd
        ++ (sortByName (placesOfEntries entries)).flatMap Prod.snd

/-- The places below each entry of a folder. -/
def placesOfEntries : List (String × FileTree) → List (String × List FilePlace)
  | [] => []
  | (name, t) :: rest => (name, t.places.map (FilePlace.within name)) :: placesOfEntries rest

end

theorem filesOfEntries_eq (path : String) (entries : List (String × FileTree)) :
    filesOfEntries path entries =
      entries.map fun e => (e.1, e.2.filesBelow (joinPath path e.1)) := by
  induction entries with
  | nil => rfl
  | cons e entries ih => rw [filesOfEntries, ih, List.map_cons]

theorem placesOfEntries_eq (entries : List (String × FileTree)) :
    placesOfEntries entries = entries.map fun e => (e.1, e.2.places.map (FilePlace.within e.1)) := by
  induction entries with
  | nil => rfl
  | cons e entries ih => rw [placesOfEntries, ih, List.map_cons]

theorem entryFile?_eq (path : String) (e : String × FileTree) :
    entryFile? path e = (entryPlace? e).map fun p => (p.1, p.2.found path) := by
  obtain ⟨name, t⟩ := e
  cases t <;> rfl

/-- The files below a folder are those at its places. -/
theorem FileTree.filesBelow_eq (t : FileTree) (path : String) :
    t.filesBelow path = t.places.map (FilePlace.found path) := by
  induction t using FileTree.induction generalizing path with
  | file content => rw [filesBelow, places, List.map_nil]
  | folder entries ih =>
    have own : entries.filterMap (entryFile? path) =
        (entries.filterMap entryPlace?).map fun p => (p.1, p.2.found path) := by
      rw [List.map_filterMap]
      exact List.filterMap_congr fun e _ => entryFile?_eq path e
    have deeper : filesOfEntries path entries =
        (placesOfEntries entries).map fun p => (p.1, p.2.map (FilePlace.found path)) := by
      rw [filesOfEntries_eq, placesOfEntries_eq, List.map_map]
      refine List.map_congr_left ?_
      intro e he
      simp only [Function.comp_apply, ih e he, List.map_map]
      rfl
    rw [filesBelow, places, own, deeper, sortByName_map, sortByName_map]
    simp [List.map_flatMap, List.flatMap_map, Function.comp_def]

theorem FileTree.places_folder (entries : List (String × FileTree)) :
    (folder entries).places = (sortByName (entries.filterMap entryPlace?)).map Prod.snd ++
      (sortByName entries).flatMap fun e => e.2.places.map (FilePlace.within e.1) := by
  rw [places, placesOfEntries_eq, sortByName_map, List.flatMap_map]

theorem entryPlace?_eq_some_iff {e : String × FileTree} {p : String × FilePlace} :
    entryPlace? e = some p ↔
      ∃ content, e.2 = .file content ∧ p = (e.1, ⟨[e.1], content⟩) := by
  obtain ⟨name, t⟩ := e
  cases t <;> simp [entryPlace?, eq_comm]

/-- Places are just where files are. -/
theorem FileTree.mem_places_iff {t : FileTree} {q : FilePlace} :
    q ∈ t.places ↔ t.HasFile q.names q.content := by
  induction t using FileTree.induction generalizing q with
  | file content =>
    refine iff_of_false (by simp [places]) ?_
    rintro ⟨⟩
  | folder entries ih =>
    rw [places_folder]
    simp only [List.mem_append, List.mem_map, mem_sortByName, List.mem_filterMap, List.mem_flatMap,
      entryPlace?_eq_some_iff]
    constructor
    · rintro (⟨_, ⟨⟨name, _⟩, he, content, rfl, rfl⟩, rfl⟩ | ⟨e, he, q, hq, rfl⟩)
      · exact .entry he
      · exact .deeper he ((ih e he).1 hq)
    · obtain ⟨names, content⟩ := q
      rintro (⟨mem⟩ | ⟨mem, rest⟩)
      · exact .inl ⟨_, ⟨_, mem, content, rfl, rfl⟩, rfl⟩
      · exact .inr ⟨_, mem, ⟨_, content⟩, (ih _ mem).2 rest, rfl⟩

theorem nodup_fst_filterMap_entryPlace? {entries : List (String × FileTree)}
    (distinct : (entries.map Prod.fst).Nodup) :
    ((entries.filterMap entryPlace?).map Prod.fst).Nodup := by
  rw [List.Nodup, List.pairwise_map, List.pairwise_filterMap]
  refine (List.pairwise_map.1 distinct).imp ?_
  intro e e' hne p hp p' hp'
  obtain ⟨_, -, rfl⟩ := entryPlace?_eq_some_iff.1 hp
  obtain ⟨_, -, rfl⟩ := entryPlace?_eq_some_iff.1 hp'
  exact hne

/-- The places below a folder stand in the order of discovery. -/
theorem FileTree.pairwise_places {t : FileTree} (wf : t.WellFormed) :
    t.places.Pairwise fun q r => ComesBefore q.names r.names := by
  induction t using FileTree.induction with
  | file content => simp [places]
  | folder entries ih =>
    obtain ⟨⟩ | ⟨_, distinct, -, below⟩ := wf
    have own : ∀ p ∈ sortByName (entries.filterMap entryPlace?), p.2.names = [p.1] := by
      intro p hp
      obtain ⟨e, -, he⟩ := List.mem_filterMap.1 (mem_sortByName.1 hp)
      obtain ⟨content, -, rfl⟩ := entryPlace?_eq_some_iff.1 he
      rfl
    have deeper : ∀ {e : String × FileTree} {q : FilePlace}, q ∈ e.2.places.map (FilePlace.within e.1) →
        ∃ names, names ≠ [] ∧ q.names = e.1 :: names := by
      intro e q hq
      obtain ⟨r, hr, rfl⟩ := List.mem_map.1 hq
      exact ⟨r.names, (mem_places_iff.1 hr).ne_nil, rfl⟩
    rw [places_folder, List.pairwise_append]
    refine ⟨?_, ?_, ?_⟩
    · rw [List.pairwise_map]
      refine (pairwise_sortByName (nodup_fst_filterMap_entryPlace? distinct)).imp_of_mem ?_
      intro p q hp hq hlt
      rw [own p hp, own q hq]
      exact .files hlt
    · rw [List.pairwise_flatMap]
      constructor
      · intro e he
        have he := mem_sortByName.1 he
        rw [List.pairwise_map]
        exact (ih e he (below e he)).imp .inside
      · refine (pairwise_sortByName distinct).imp ?_
        intro e e' hlt q hq q' hq'
        obtain ⟨names, hne, hq⟩ := deeper hq
        obtain ⟨names', hne', hq'⟩ := deeper hq'
        rw [hq, hq']
        exact .folders hlt hne hne'
    · intro q hq r hr
      obtain ⟨p, hp, rfl⟩ := List.mem_map.1 hq
      obtain ⟨e, -, hr⟩ := List.mem_flatMap.1 hr
      obtain ⟨names, hne, hr⟩ := deeper hr
      rw [own p hp, hr]
      exact .fileFirst hne

/-! ## Paths -/

theorem toList_joinPath (path name : String) :
    (joinPath path name).toList = (joinPath path "").toList ++ name.toList := by
  rw [joinPath, joinPath]
  split <;> simp

/-- A path that ends in a name is followed by a slash. -/
theorem toList_joinPath_joinPath {name : String} (h : IsFileName name) (path next : String) :
    (joinPath (joinPath path name) next).toList =
      (joinPath path name).toList ++ '/' :: next.toList := by
  obtain ⟨hne, hslash, -⟩ := h
  have hname : name.toList ≠ [] := by simpa using hne
  have open_end : ¬(joinPath path name = "" || (joinPath path name).endsWith "/") = true := by
    rw [Bool.or_eq_true, decide_eq_true_iff, not_or]
    constructor
    · intro h
      have hnil := congrArg String.toList h
      rw [toList_joinPath] at hnil
      simp [hname] at hnil
    · rw [← String.endsWith_toSlice, String.Slice.endsWith_string_iff, String.copy_toSlice,
        toList_joinPath]
      rintro ⟨front, hfront⟩
      have hlast := congrArg List.getLast? hfront
      rw [List.getLast?_append_of_ne_nil _ hname] at hlast
      have hlast : name.toList.getLast? = some '/' := by simpa using hlast.symm
      exact hslash (List.mem_of_getLast? hlast)
  rw [joinPath, if_neg open_end]
  simp

theorem toList_pathAlong (path : String) {names : List String} (hne : names ≠ [])
    (h : ∀ name ∈ names, IsFileName name) :
    (pathAlong path names).toList =
      (joinPath path "").toList ++ ['/'].intercalate (names.map String.toList) := by
  induction names generalizing path with
  | nil => exact absurd rfl hne
  | cons a names ih =>
    cases names with
    | nil => simp [pathAlong, ← toList_joinPath]
    | cons b names =>
      have ha : IsFileName a := h a (by simp)
      show (pathAlong (joinPath path a) (b :: names)).toList = _
      rw [ih (joinPath path a) (by simp) (fun name hname => h name (by simp [hname])),
        toList_joinPath_joinPath ha, toList_joinPath]
      simp [List.intercalate_cons_cons]

/-- Different names lead to different paths. -/
theorem pathAlong_injective {path : String} {names names' : List String} (hne : names ≠ [])
    (hne' : names' ≠ []) (h : ∀ name ∈ names, IsFileName name)
    (h' : ∀ name ∈ names', IsFileName name) (heq : pathAlong path names = pathAlong path names') :
    names = names' := by
  have hjoined := congrArg String.toList heq
  rw [toList_pathAlong path hne h, toList_pathAlong path hne' h', List.append_cancel_left_eq]
    at hjoined
  have hsplit := congrArg (List.splitOn '/') hjoined
  rw [List.splitOn_intercalate '/' (by simpa using fun n hn => (h n hn).2.1) (by simpa using hne),
    List.splitOn_intercalate '/' (by simpa using fun n hn => (h' n hn).2.1) (by simpa using hne')]
    at hsplit
  exact List.map_injective_iff.2 (fun _ _ => String.toList_injective) hsplit

/-! ## Going along a path -/

/-- Going along some segments and then others: the first lead to a place to go on
from, or they fail whatever follows. -/
theorem FileTree.walk_append_cases (here : FileTree) (around : List FileTree) (xs : List String) :
    (∃ (d : FileTree) (around' : List FileTree),
      ∀ ys, here.walk around (xs ++ ys) = d.walk around' ys) ∨
      ∃ fault, ∀ ys, here.walk around (xs ++ ys) = .error fault := by
  induction xs generalizing here around with
  | nil => exact .inl ⟨here, around, fun _ => rfl⟩
  | cons s xs ih =>
    cases here with
    | file content => exact .inr ⟨.notFolder, fun _ => rfl⟩
    | folder entries =>
      simp only [List.cons_append, FileTree.walk]
      split
      · exact ih _ _
      · split
        · split
          · exact ih _ _
          · exact ih _ _
        · split
          · exact ih _ _
          · exact .inr ⟨.notFound, fun _ => rfl⟩

/-- The names that lead to a file are segments that lead to it. -/
theorem FileTree.HasFile.walk {d : FileTree} {names : List String}
    {content : Except String (List UInt8)} (h : d.HasFile names content) (wf : d.WellFormed)
    (around : List FileTree) : d.walk around names = .ok (.file content) := by
  -- A name is taken down to the entry under it, never up or nowhere.
  have down : ∀ {entries : List (String × FileTree)} {name : String} {t : FileTree}
      (rest : List String) (around : List FileTree), (FileTree.folder entries).WellFormed →
      (name, t) ∈ entries → (FileTree.folder entries).walk around (name :: rest) =
        t.walk (.folder entries :: around) rest := by
    intro entries name t rest around wf mem
    obtain ⟨⟩ | ⟨_, distinct, named, -⟩ := wf
    obtain ⟨hne, -, hdot, hdots⟩ := named _ mem
    have found : entries.lookup name = some t :=
      OrderedMap.mem_entries_iff (m := ⟨entries, distinct⟩).1 mem
    simp only [FileTree.walk, found]
    simp [hne, hdot, hdots]
  induction h generalizing around with
  | entry mem => exact down [] around wf mem
  | deeper mem _ ih =>
    rw [down _ around wf mem]
    obtain ⟨⟩ | ⟨_, -, -, below⟩ := wf
    exact ih (below _ mem) _

theorem segments_eq_append {path : String} {front back : List Char}
    (h : path.toList = front ++ '/' :: back) :
    segments path = (front.splitOn '/').map String.ofList ++ (back.splitOn '/').map String.ofList := by
  rw [segments, h, List.splitOn_append_cons_self, List.map_append]

/-- The path of an entry starts with the path of its folder and a slash, which
may be there already; one more segment is then empty. -/
theorem exists_front (path : String) (hne : path ≠ "") :
    ∃ (front : List Char) (last : List String), (joinPath path "").toList = front ++ ['/'] ∧
      segments path = (front.splitOn '/').map String.ofList ++ last ∧
      (last = [] ∨ last = [""]) := by
  by_cases hslash : path.endsWith "/" = true
  · have hjoin : joinPath path "" = path := by simp [joinPath, hslash]
    rw [← String.endsWith_toSlice, String.Slice.endsWith_string_iff, String.copy_toSlice] at hslash
    obtain ⟨front, hfront⟩ := hslash
    refine ⟨front, [""], ?_, segments_eq_append hfront.symm, .inr rfl⟩
    rw [hjoin, ← hfront]
    rfl
  · have hjoin : joinPath path "" = path ++ "/" ++ "" := by simp [joinPath, hslash, hne]
    exact ⟨path.toList, [], by simp [hjoin], (List.append_nil _).symm, .inl rfl⟩

theorem relative_iff {path : String} :
    ¬(path = "" || path.startsWith "/") = true ↔ ∃ c cs, path.toList = c :: cs ∧ c ≠ '/' := by
  rw [Bool.or_eq_true, decide_eq_true_iff, not_or, String.startsWith_string_iff]
  constructor
  · rintro ⟨hne, hstart⟩
    obtain ⟨c, cs, hcs⟩ := List.exists_cons_of_ne_nil (by simpa using hne : path.toList ≠ [])
    refine ⟨c, cs, hcs, ?_⟩
    rintro rfl
    exact hstart ⟨cs, hcs.symm⟩
  · rintro ⟨c, cs, hcs, hc⟩
    constructor
    · rintro rfl
      simp at hcs
    · rintro ⟨rest, hrest⟩
      rw [hcs] at hrest
      exact hc (List.cons.inj hrest).1.symm

theorem exists_toList_joinPath (path : String) :
    ∃ sep, (joinPath path "").toList = path.toList ++ sep := by
  rw [joinPath]
  split
  · exact ⟨[], by simp⟩
  · exact ⟨['/'], by simp⟩

/-- The path along the names to a file below a folder leads to that file. -/
theorem FileTree.HasFile.find {t : FileTree} {path : String} {entries : List (String × FileTree)}
    {names : List String} {content : Except String (List UInt8)}
    (h : (FileTree.folder entries).HasFile names content)
    (wf : (FileTree.folder entries).WellFormed) (hpath : t.find path = .ok (.folder entries)) :
    t.find (pathAlong path names) = .ok (.file content) := by
  rw [FileTree.find] at hpath
  split at hpath
  · cases hpath
  next hrelative =>
  have htext := toList_pathAlong path h.ne_nil (h.isFileName wf)
  have hrelative' : ¬(pathAlong path names = "" ||
      (pathAlong path names).startsWith "/") = true := by
    obtain ⟨c, cs, hcs, hc⟩ := relative_iff.1 hrelative
    obtain ⟨sep, hsep⟩ := exists_toList_joinPath path
    rw [relative_iff, htext, hsep, hcs]
    exact ⟨c, _, rfl, hc⟩
  have hne : path ≠ "" := by
    rintro rfl
    simp at hrelative
  obtain ⟨front, last, hfront, hsegments, hlast⟩ := exists_front path hne
  have hnames : segments (pathAlong path names) =
      (front.splitOn '/').map String.ofList ++ names := by
    rw [hfront, List.append_assoc, List.singleton_append] at htext
    rw [segments_eq_append htext,
      List.splitOn_intercalate '/' (by simpa using fun n hn => (h.isFileName wf n hn).2.1)
        (by simpa using h.ne_nil)]
    simp [Function.comp_def]
  rw [FileTree.find, if_neg hrelative', hnames]
  rw [hsegments] at hpath
  obtain ⟨d, around, hwalk⟩ | ⟨fault, hwalk⟩ :=
    t.walk_append_cases [] ((front.splitOn '/').map String.ofList)
  · rw [hwalk] at hpath
    have hd : d = .folder entries := by
      obtain rfl | rfl := hlast
      · exact Except.ok.inj hpath
      · cases d with
        | file content => cases hpath
        | folder entries' => exact Except.ok.inj hpath
    rw [hwalk, hd]
    exact h.walk wf around
  · rw [hwalk] at hpath
    cases hpath

end StateCoverage
