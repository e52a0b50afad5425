import Mathlib.Data.List.TakeWhile
import StateCoverage.Proofs.FilePlaces

/-!
# Discovery finds every file once and in order

A folder on the command line stands for the files below it, at any depth, that
the settings admit; a file stands for itself, whatever the settings say, and a
path to nothing is passed over.

* `Settings.Admits` — a file of a folder that is to be checked.
* `FindsBelow` — the files below a folder that are to be checked, in order.
* `discovery_exact` — what the paths of a run lead to.
-/

namespace StateCoverage

/-! ## What the settings admit -/

/-- The last part of a path, after its last slash if it has one. -/
def IsBaseName (path name : String) : Prop :=
  '/' ∉ name.toList ∧ (path = name ∨ ∃ folder, path = folder ++ "/" ++ name)

/-- The base name of a path is its last segment. -/
theorem isBaseName_iff {path name : String} : IsBaseName path name ↔ name = lastSegment path := by
  constructor
  · rintro ⟨hslash, hpath⟩
    have hfree : ∀ c ∈ name.toList.reverse, decide (c ≠ '/') = true := by
      intro c hc
      refine decide_eq_true ?_
      rintro rfl
      exact hslash (List.mem_reverse.1 hc)
    have htail : path.toList.reverse.takeWhile (· ≠ '/') = name.toList.reverse := by
      obtain rfl | ⟨folder, rfl⟩ := hpath
      · exact List.takeWhile_eq_self_iff.2 hfree
      · simp only [String.toList_append, List.reverse_append]
        rw [List.takeWhile_append_of_pos hfree]
        simp
    rw [lastSegment, htail, List.reverse_reverse, String.ofList_toList]
  · rintro rfl
    have hfree : '/' ∉ (lastSegment path).toList := by
      intro hmem
      rw [lastSegment, String.toList_ofList, List.mem_reverse] at hmem
      simpa using List.mem_takeWhile_imp hmem
    refine ⟨hfree, ?_⟩
    have hsplit : path.toList = (path.toList.reverse.dropWhile (· ≠ '/')).reverse ++
        (lastSegment path).toList := by
      rw [lastSegment, String.toList_ofList, ← List.reverse_append, List.takeWhile_append_dropWhile,
        List.reverse_reverse]
    cases hfront : path.toList.reverse.dropWhile (· ≠ '/') with
    | nil =>
      left
      rw [hfront, List.reverse_nil, List.nil_append] at hsplit
      exact String.toList_injective hsplit
    | cons c front =>
      right
      have hc : c = '/' := by
        have hhead := List.head?_dropWhile_not (fun c => decide (c ≠ '/')) path.toList.reverse
        rw [hfront] at hhead
        simpa using hhead
      refine ⟨String.ofList front.reverse, String.toList_injective ?_⟩
      rw [hsplit, hfront, hc]
      simp

/-- The pattern matches a path or its base name, once each backslash of the path
is read as a slash. -/
def Covers (pattern path : String) : Prop :=
  ∃ slashed : String, slashed.toList = path.toList.map (fun c => if c = '\\' then '/' else c) ∧
    ((Glob.ofText pattern).accepts slashed = true ∨
      ∃ name, IsBaseName slashed name ∧ (Glob.ofText pattern).accepts name = true)

/-- A path with slashes in place of backslashes, spelled out. -/
theorem toList_eq_map_slash_iff {path slashed : String} :
    slashed.toList = path.toList.map (fun c => if c = '\\' then '/' else c) ↔
      slashed = withSlashes path := by
  rw [withSlashes, ← String.toList_inj, String.toList_map]

/-- A pattern matches the paths that it covers. -/
theorem matchesPath_iff {path pattern : String} :
    matchesPath path pattern = true ↔ Covers pattern path := by
  simp [matchesPath, Covers, isBaseName_iff, toList_eq_map_slash_iff]

/-- Some pattern covers the path that is to be included, and none that is to be
excluded does. -/
structure Settings.Admits (s : Settings) (path : String) : Prop where
  included : ∃ pattern ∈ s.includes, Covers pattern path
  notExcluded : ∀ pattern ∈ s.excludes, ¬Covers pattern path

/-- Files are selected by the patterns of the settings. -/
theorem Settings.selects_iff {s : Settings} {path : String} :
    s.selects path = true ↔ s.Admits path := by
  have any_iff : ∀ patterns, matchesAny path patterns = true ↔ ∃ p ∈ patterns, Covers p path := by
    intro patterns
    simp only [matchesAny, List.any_eq_true, matchesPath_iff]
  rw [selects, Bool.and_eq_true, Bool.not_eq_true', ← Bool.not_eq_true, any_iff, any_iff]
  constructor
  · rintro ⟨included, notExcluded⟩
    exact ⟨included, fun p hp hcovers => notExcluded ⟨p, hp, hcovers⟩⟩
  · rintro ⟨included, notExcluded⟩
    exact ⟨included, fun ⟨p, hp, hcovers⟩ => notExcluded p hp hcovers⟩

/-! ## Runs over paths -/

/-- Paths are searched one after the other. -/
theorem sourceFiles_eq_flatMap (files : FileSystem) (settings : Settings) (paths : List String) :
    sourceFiles files settings paths = paths.flatMap fun p => sourceFiles files settings [p] := by
  simp [sourceFiles, discover, List.filterMap_flatMap]

/-- The files below a folder that the settings admit, with the names that lead to
each. -/
def admittedPlaces (folder : FileTree) (path : String) (settings : Settings) : List FilePlace :=
  folder.places.filter fun q => settings.selects (pathAlong path q.names)

/-- A folder gives the places below it that are selected. -/
theorem sourceFiles_folder {files : FileSystem} {settings : Settings} {path : String}
    {entries : List (String × FileTree)} (h : files.find path = .ok (.folder entries)) :
    sourceFiles files settings [path] =
      (admittedPlaces (.folder entries) path settings).map (FilePlace.found path) := by
  have unwrap : ∀ fs : List FoundFile, (fs.map Discovery.file).filterMap Discovery.file? = fs := by
    intro fs
    rw [List.filterMap_map]
    exact List.filterMap_some
  simp only [sourceFiles, discover, List.flatMap_singleton, discoverPath, h, unwrap,
    FileTree.filesBelow_eq, List.filter_map, admittedPlaces]
  rfl

theorem sourceFiles_file {files : FileSystem} {settings : Settings} {path : String}
    {content : Except String (List UInt8)} (h : files.find path = .ok (.file content)) :
    sourceFiles files settings [path] = [⟨path, content⟩] := by
  simp [sourceFiles, discover, discoverPath, h, Discovery.file?]

theorem sourceFiles_error {files : FileSystem} {settings : Settings} {path : String}
    {fault : PathFault} (h : files.find path = .error fault) :
    sourceFiles files settings [path] = [] := by
  simp [sourceFiles, discover, discoverPath, h, Discovery.file?]

/-- What is found below the folder at a path: the files there that the settings
admit, in order and each once. -/
structure FindsBelow (found : List FoundFile) (folder : FileTree) (path : String)
    (settings : Settings) : Prop where
  exact_and_ordered : ∃ places : List FilePlace, found = places.map (FilePlace.found path) ∧
    (∀ q, q ∈ places ↔
      folder.HasFile q.names q.content ∧ settings.Admits (pathAlong path q.names)) ∧
    places.Pairwise fun q r => ComesBefore q.names r.names
  once : (found.map FoundFile.path).Nodup

/-- What is found below a folder is found exactly, in order and once. -/
theorem findsBelow_sourceFiles {files : FileSystem} {settings : Settings} {path : String}
    {entries : List (String × FileTree)} (h : files.find path = .ok (.folder entries))
    (wf : (FileTree.folder entries).WellFormed) :
    FindsBelow (sourceFiles files settings [path]) (.folder entries) path settings := by
  have mem_iff : ∀ q, q ∈ admittedPlaces (.folder entries) path settings ↔
      (FileTree.folder entries).HasFile q.names q.content ∧
        settings.Admits (pathAlong path q.names) := by
    intro q
    rw [admittedPlaces, List.mem_filter, FileTree.mem_places_iff, Settings.selects_iff]
  have ordered : (admittedPlaces (.folder entries) path settings).Pairwise fun q r =>
      ComesBefore q.names r.names := (FileTree.pairwise_places wf).filter _
  rw [sourceFiles_folder h]
  refine ⟨⟨_, rfl, mem_iff, ordered⟩, ?_⟩
  rw [List.map_map, List.Nodup, List.pairwise_map]
  refine ordered.imp_of_mem ?_
  intro q r hq hr before heq
  have hq := ((mem_iff q).1 hq).1
  have hr := ((mem_iff r).1 hr).1
  exact before.ne (pathAlong_injective hq.ne_nil hr.ne_nil (hq.isFileName wf) (hr.isFileName wf) heq)

/-- Every path that leads somewhere leads to a well-formed tree. -/
def FileSystem.WellFormed (files : FileSystem) : Prop :=
  ∀ path t, files.find path = .ok t → t.WellFormed

/-- A walk along a path stays in well-formed trees. -/
theorem FileTree.WellFormed.walk {here t : FileTree} {around : List FileTree} {names : List String}
    (wf : here.WellFormed) (wfAround : ∀ u ∈ around, u.WellFormed)
    (h : here.walk around names = .ok t) : t.WellFormed := by
  induction names generalizing here around with
  | nil =>
    obtain rfl := Except.ok.inj h
    exact wf
  | cons s rest ih =>
    cases here with
    | file content => cases h
    | folder entries =>
      obtain ⟨⟩ | ⟨_, -, -, below⟩ := id wf
      simp only [FileTree.walk] at h
      split at h
      · exact ih wf wfAround h
      · split at h
        · split at h
          · exact ih (wfAround _ (by simp)) (fun u hu => wfAround u (by simp [hu])) h
          · exact ih wf (by simp) h
        · split at h
          · next u hu =>
            obtain ⟨front, back, rfl, -⟩ := List.lookup_eq_some_iff.1 hu
            refine ih (below (s, u) (by simp)) ?_ h
            intro v hv
            rcases List.mem_cons.1 hv with rfl | hv
            · exact wf
            · exact wfAround v hv
          · cases h

/-- The files of a well-formed tree are so by every path. -/
theorem FileTree.WellFormed.fileSystem {t : FileTree} (wf : t.WellFormed) :
    t.fileSystem.WellFormed := by
  intro path u h
  change t.find path = .ok u at h
  rw [FileTree.find] at h
  split at h
  · cases h
  · exact wf.walk (by simp) h

/-- Whatever is found in a tree stands there, at the path under which it is found. -/
theorem find_of_mem_sourceFiles {t : FileTree} {settings : Settings} {paths : List String}
    {f : FoundFile} (wf : t.fileSystem.WellFormed)
    (h : f ∈ sourceFiles t.fileSystem settings paths) : t.find f.path = .ok (.file f.content) := by
  rw [sourceFiles_eq_flatMap, List.mem_flatMap] at h
  obtain ⟨path, -, h⟩ := h
  cases hfind : t.fileSystem.find path with
  | error fault => simp [sourceFiles_error hfind] at h
  | ok u =>
    cases u with
    | file content =>
      rw [sourceFiles_file hfind, List.mem_singleton] at h
      rw [h]
      exact hfind
    | folder entries =>
      rw [sourceFiles_folder hfind, List.mem_map] at h
      obtain ⟨q, hq, rfl⟩ := h
      have hq := FileTree.mem_places_iff.1 (List.mem_filter.1 hq).1
      exact hq.find (wf path _ hfind) hfind

/-- **Discovery is exact and ordered.**  A folder leads to the files below it that
the settings admit, each once, its own files by name before those of its folders
by name; a file leads to itself, and a path to nothing to nothing.  Several paths
lead to what each leads to, in their order.  In a tree, the path of every file
that is found leads to that file. -/
theorem discovery_exact (files : FileSystem) (settings : Settings) (wf : files.WellFormed) :
    (∀ path entries, files.find path = .ok (.folder entries) →
      FindsBelow (sourceFiles files settings [path]) (.folder entries) path settings) ∧
    (∀ path content, files.find path = .ok (.file content) →
      sourceFiles files settings [path] = [⟨path, content⟩]) ∧
    (∀ path fault, files.find path = .error fault → sourceFiles files settings [path] = []) ∧
    (∀ paths, sourceFiles files settings paths =
      paths.flatMap fun path => sourceFiles files settings [path]) ∧
    (∀ t : FileTree, files = t.fileSystem → ∀ paths, ∀ f ∈ sourceFiles files settings paths,
      files.find f.path = .ok (.file f.content)) := by
  refine ⟨?_, ?_, ?_, sourceFiles_eq_flatMap files settings, ?_⟩
  · intro path entries h
    exact findsBelow_sourceFiles h (wf path _ h)
  · intro path content h
    exact sourceFiles_file h
  · intro path fault h
    exact sourceFiles_error h
  · rintro t rfl paths f hf
    exact find_of_mem_sourceFiles wf hf

/-! ### A tree with a folder that is left out -/

/-- The entries of a folder, in no order. -/
def sourceFolder : List (String × FileTree) :=
  [("machine.py", .file (.ok [])), ("lib", .folder [("a.py", .file (.ok []))]),
   ("generated", .folder [("copy.py", .file (.ok []))]), ("clean.py", .file (.ok [])),
   ("generated\\old.py", .file (.ok []))]

/-- The tree in which the folder is called `src`. -/
def sourceTree : FileTree := .folder [("src", .folder sourceFolder)]

/-- Settings that leave out what is generated. -/
def handwritten : Settings := ⟨true, .error, ["*.py"], ["*/generated/*"]⟩

theorem wellFormed_sourceTree : sourceTree.WellFormed := by
  have leaf : ∀ name, IsFileName name → (FileTree.folder [(name, .file (.ok []))]).WellFormed := by
    intro name hname
    refine .folder _ (by simp) (by simpa using hname) ?_
    intro e he
    rw [List.mem_singleton.1 he]
    exact .file _
  have src : (FileTree.folder sourceFolder).WellFormed := by
    refine .folder _ (by decide) (by decide) ?_
    intro e he
    simp only [sourceFolder, List.mem_cons, List.not_mem_nil, or_false] at he
    rcases he with rfl | rfl | rfl | rfl | rfl
    · exact .file _
    · exact leaf _ (by decide)
    · exact leaf _ (by decide)
    · exact .file _
    · exact .file _
  refine .folder _ (by decide) (by decide) ?_
  intro e he
  rw [List.mem_singleton.1 he]
  exact src

theorem find_sourceTree : sourceTree.fileSystem.find "src" = .ok (.folder sourceFolder) := by
  have parts : segments "src" = ["src"] := by decide +kernel
  show sourceTree.find "src" = _
  rw [FileTree.find, if_neg (relative_iff.2 ⟨'s', ['r', 'c'], rfl, by decide⟩), parts]
  rfl

theorem notMem_of_not_selects {found : List FoundFile} {places : List FilePlace}
    {folder : FileTree} {settings : Settings} {top path : String}
    {content : Except String (List UInt8)} (hfound : found = places.map (FilePlace.found top))
    (hplaces : ∀ q, q ∈ places ↔
      folder.HasFile q.names q.content ∧ settings.Admits (pathAlong top q.names))
    (h : settings.selects path = false) : ⟨path, content⟩ ∉ found := by
  rw [hfound, List.mem_map]
  rintro ⟨q, hq, heq⟩
  have hpath : pathAlong top q.names = path := congrArg FoundFile.path heq
  have hadmits := Settings.selects_iff.2 ((hplaces q).1 hq).2
  rw [hpath, h] at hadmits
  cases hadmits

/-- A file two folders down is found; one in a folder that is left out is not, nor
is one whose name spells such a folder with a backslash; and a path to nothing
adds nothing. -/
theorem discovery_exact_sourceTree :
    sourceTree.fileSystem.WellFormed ∧
    ⟨"src/lib/a.py", .ok []⟩ ∈ sourceFiles sourceTree.fileSystem handwritten ["src"] ∧
    ⟨"src/generated/copy.py", .ok []⟩ ∉ sourceFiles sourceTree.fileSystem handwritten ["src"] ∧
    ⟨"src/generated\\old.py", .ok []⟩ ∉ sourceFiles sourceTree.fileSystem handwritten ["src"] ∧
    sourceFiles sourceTree.fileSystem handwritten ["src", ""] =
      sourceFiles sourceTree.fileSystem handwritten ["src"] := by
  have wf := wellFormed_sourceTree.fileSystem
  obtain ⟨below, -, missing, all, -⟩ := discovery_exact sourceTree.fileSystem handwritten wf
  obtain ⟨⟨places, hfound, hplaces, -⟩, -⟩ := below "src" sourceFolder find_sourceTree
  refine ⟨wf, ?_, ?_, ?_, ?_⟩
  · rw [hfound, List.mem_map]
    refine ⟨⟨["lib", "a.py"], .ok []⟩, (hplaces _).2 ⟨?_, ?_⟩, ?_⟩
    · have mem : ("lib", FileTree.folder [("a.py", .file (.ok []))]) ∈ sourceFolder := by
        simp [sourceFolder]
      exact .deeper mem (.entry (by simp))
    · rw [← Settings.selects_iff]
      decide +kernel
    · have hpath : pathAlong "src" ["lib", "a.py"] = "src/lib/a.py" := by decide +kernel
      rw [FilePlace.found, hpath]
  · exact notMem_of_not_selects hfound hplaces (by decide +kernel)
  · exact notMem_of_not_selects hfound hplaces (by decide +kernel)
  · rw [all, List.flatMap_cons, List.flatMap_singleton, missing "" .notFound rfl, List.append_nil]

end StateCoverage
