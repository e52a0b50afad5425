/-!
# File trees

A file tree is a file with its bytes or a folder with named entries.  A file may
also be one that cannot be opened.  Paths are read from the top folder: segments
stand between slashes, empty segments and `.` stay in a folder, and `..` goes to
the folder around it.

* `FileTree.find` — what stands at a path.
* `FileSystem` — the part of this that a run needs.
-/

namespace StateCoverage

/-- A file or a folder. -/
inductive FileTree where
  /-- A file with its bytes, or with the reason why it cannot be opened. -/
  | file (content : Except String (List UInt8))
  | folder (entries : List (String × FileTree))

/-- Why a path does not lead to what is asked of it. -/
inductive PathFault where
  /-- A segment names nothing. -/
  | notFound
  /-- The path goes through a file. -/
  | notFolder
  /-- The path leads to a folder, not to a file. -/
  | isFolder
  /-- The path leads to a file that cannot be opened. -/
  | refused (reason : String)
  deriving Repr, DecidableEq, Inhabited

/-- The segments of a path. -/
def segments (path : String) : List String :=
  (path.toList.splitOn '/').map String.ofList

namespace FileTree

/-- The folder without entries. -/
def empty : FileTree := .folder []

instance : Inhabited FileTree := ⟨empty⟩

/-- Goes along segments; `around` are the folders around the place, innermost
first. -/
def walk (here : FileTree) (around : List FileTree) : List String → Except PathFault FileTree
  | [] => .ok here
  | s :: rest =>
      match here with
      | .file _ => .error .notFolder
      | .folder entries =>
          if s = "" || s = "." then walk here around rest
          else if s = ".." then
            match around with
            | outer :: more => walk outer more rest
            | [] => walk here [] rest
          else
            match entries.lookup s with
            | some t => walk t (here :: around) rest
            | none => .error .notFound

/-- What stands at a path.  Nothing stands at the empty path or at one from the
root of all files. -/
def find (t : FileTree) (path : String) : Except PathFault FileTree :=
  if path = "" || path.startsWith "/" then .error .notFound else t.walk [] (segments path)

end FileTree

/-! ## What a run sees -/

/-- Files as a run sees them: what stands at each path. -/
structure FileSystem where
  find : String → Except PathFault FileTree

/-- The files of a tree, by their paths from its top folder. -/
def FileTree.fileSystem (t : FileTree) : FileSystem := ⟨t.find⟩

/-- The bytes of the file at a path. -/
def FileSystem.read (files : FileSystem) (path : String) : Except PathFault (List UInt8) := do
  match ← files.find path with
  | .file content => content.mapError .refused
  | .folder _ => .error .isFolder

end StateCoverage
