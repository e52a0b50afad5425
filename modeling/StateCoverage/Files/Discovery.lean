import StateCoverage.Files.Glob
import StateCoverage.Files.Tree
import StateCoverage.Settings

/-!
# Files to check

A path on the command line names a file, which is checked whatever it is
called, or a folder, of which the files are checked that the settings let
through.  The files of a folder come first, by name, and then those of its
folders, by name.

* `FileTree.filesBelow` — all files below a folder, in that order.
* `discover` — what the paths of a run lead to.
-/

namespace StateCoverage

/-- A file with its path, and with its bytes if it can be opened. -/
structure FoundFile where
  path : String
  content : Except String (List UInt8)
  deriving Repr, Inhabited

/-- The path of an entry of a folder. -/
def joinPath (folder name : String) : String :=
  if folder = "" || folder.endsWith "/" then folder ++ name else folder ++ "/" ++ name

/-- Pairs sorted by their names. -/
def sortByName {α : Type} (pairs : List (String × α)) : List (String × α) :=
  pairs.mergeSort fun a b => decide (a.1 ≤ b.1)

/-- The file that an entry of a folder is. -/
def entryFile? (folder : String) (entry : String × FileTree) : Option (String × FoundFile) :=
  match entry.2 with
  | .file content => some (entry.1, ⟨joinPath folder entry.1, content⟩)
  | .folder _ => none

mutual

/-- All files below a folder: its own by name, then those of its folders by
name. -/
def FileTree.filesBelow (path : String) : FileTree → List FoundFile
  | .file _ => []
  | .folder entries =>
      (sortByName (entries.filterMap (entryFile? path))).map Prod.snd
        ++ (sortByName (filesOfEntries path entries)).flatMap Prod.snd

/-- The files below each entry of a folder. -/
def filesOfEntries (path : String) : List (String × FileTree) → List (String × List FoundFile)
  | [] => []
  | (name, t) :: rest => (name, t.filesBelow (joinPath path name)) :: filesOfEntries path rest

end

/-- Whether the settings let a file of a folder through. -/
def Settings.selects (s : Settings) (path : String) : Bool :=
  matchesAny path s.includes && !matchesAny path s.excludes

/-- What a path of a run leads to. -/
inductive Discovery where
  | file (found : FoundFile)
  /-- Nothing stands at the path. -/
  | missing (path : String)
  deriving Repr

/-- The file that was found. -/
def Discovery.file? : Discovery → Option FoundFile
  | .file found => some found
  | .missing _ => none

/-- What one path leads to. -/
def discoverPath (files : FileSystem) (settings : Settings) (path : String) : List Discovery :=
  match files.find path with
  | .ok (.file content) => [.file ⟨path, content⟩]
  | .ok (.folder entries) =>
      (((FileTree.folder entries).filesBelow path).filter fun f => settings.selects f.path).map .file
  | .error _ => [.missing path]

/-- What the paths of a run lead to, in their order. -/
def discover (files : FileSystem) (settings : Settings) (paths : List String) : List Discovery :=
  paths.flatMap (discoverPath files settings)

/-- The files of a run. -/
def sourceFiles (files : FileSystem) (settings : Settings) (paths : List String) : List FoundFile :=
  (discover files settings paths).filterMap Discovery.file?

end StateCoverage
