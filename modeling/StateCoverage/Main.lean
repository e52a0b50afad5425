import StateCoverage.Command.Readers

/-!
# The command

Reads from disk what a command line asks for, runs it, prints and returns.
-/

open StateCoverage

/-- Why the system does not open a file. -/
def refusal (path : String) : IO.Error → String
  | .permissionDenied _ code details => s!"[Errno {code}] {details}: {Text.quoted path}"
  | e => toString e

/-- A folder or file on disk, if something stands there. -/
partial def readTree (folder : String) : IO (Option FileTree) := do
  let path := (← IO.currentDir) / folder
  if ← path.isDir then
    let mut entries := []
    for entry in ← path.readDir do
      if let some t ← readTree (joinPath folder entry.fileName) then
        entries := (entry.fileName, t) :: entries
    return some (.folder entries)
  else
    try
      return some (.file (.ok (← IO.FS.readBinFile path).toList))
    catch e =>
      if ← path.pathExists then return some (.file (.error (refusal folder e))) else return none

/-- What stands at a path on disk. -/
def readPath (path : String) : IO (Except PathFault FileTree) := do
  if path.isEmpty then return .error .notFound
  match ← readTree path with
  | some t => return .ok t
  | none => return .error .notFound

/-- The paths that a command line can look at. -/
def pathsOf (args : List String) : List String :=
  match Options.parse args with
  | .run options => options.config?.getD standardSettingsFile :: options.paths
  | _ => []

/-- The files that a command line can look at. -/
def filesFor (args : List String) : IO FileSystem := do
  let found ← (pathsOf args).mapM fun path => return (path, ← readPath path)
  return ⟨fun path => (found.lookup path).getD (.error .notFound)⟩

def main (args : List String) : IO UInt32 := do
  let result := run .standard "fsm_coverage.cli" (← filesFor args) args
  IO.print (asLines result.output)
  IO.eprint (asLines result.errors)
  match result.ending with
  | .code n => return n.toUInt32
  | .loadFault _ | .valueLost => return 1
