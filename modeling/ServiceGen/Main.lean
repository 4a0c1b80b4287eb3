import ServiceGen.CommandLine.Footprint

/-!
# The Program

Reads what a call may look at from the disk, makes the call, and writes what it changed.
-/

namespace ServiceGen.Program

/-- What stands in a directory entry. -/
partial def readEntry (entry : IO.FS.DirEntry) : IO (Option (String × FileTree)) := do
  if ← entry.path.isDir then
    let entries ← (← entry.path.readDir).toList.filterMapM readEntry
    return some (entry.fileName, .directory (Entries.sortedOfList entries))
  else
    try
      let bytes ← IO.FS.readBinFile entry.path
      return some (entry.fileName, .file (.ofBytes bytes.toList))
    catch _ => return none

/-- What a path leads to, if there is anything. -/
def readPath (path : String) : IO (Option FileTree) := do
  let base ← IO.currentDir
  let path := base / path
  if ← path.isDir then
    let entries ← (← path.readDir).toList.filterMapM readEntry
    return some (.directory (Entries.sortedOfList entries))
  else if ← path.pathExists then
    return some (.file (.ofBytes (← IO.FS.readBinFile path).toList))
  else return none

/-- The tree with what a path leads to. -/
def addPath (dir : String) (tree : FileTree) (path : String) : IO FileTree := do
  let place := CommandLine.placeOf dir path
  match ← readPath path with
  | some node => return if (tree.at? place).isSome then tree else FileTree.put node place tree
  | none => return tree

/-- The tree with a directory, if it is there. -/
def addDirectory (dir : String) (tree : FileTree) (path : String) : IO FileTree := do
  let place := CommandLine.placeOf dir path
  let base ← IO.currentDir
  if (← (base / path).isDir) && (tree.at? place).isNone then
    return FileTree.put .empty place tree
  else return tree

/-- The workspace that a command works in. -/
def readWorkspace (dir : String) (command : CommandLine.Command) : IO Workspace := do
  let tree ← (command.footprint dir).foldlM (addPath dir) .empty
  let tree ← (dir :: command.directories).foldlM (addDirectory dir) tree
  return { tree, dir }

/-- Writes the files that are new or differ. -/
def writeChanges (before after : FileTree) : IO Unit := do
  let old := before.files
  for (place, content) in after.files do
    if old.lookup place != some content then
      let path := Workspace.absolute place
      IO.FS.createDirAll (Workspace.absolute place.dropLast)
      IO.FS.writeBinFile path ⟨content.bytes.toArray⟩

/-- The environment variables that options may be taken from. -/
def readEnvironment : IO (Entries String) :=
  CommandLine.environmentNames.eraseDups.filterMapM fun name => do
    return (← IO.getEnv name).map fun value => (name, value)

/-- Makes a call and says what it leaves. -/
def call (args : List String) : IO UInt32 := do
  let environment ← readEnvironment
  let outcome ← match CommandLine.parse args environment with
    | .error stop => pure (CommandLine.Outcome.ofStop stop)
    | .ok command => do
      let dir := (← IO.currentDir).toString
      let workspace ← readWorkspace dir command
      let (outcome, after) := CommandLine.execute workspace command
      writeChanges workspace.tree after.tree
      pure outcome
  IO.print outcome.output
  IO.eprint outcome.errors
  return outcome.code.toUInt32

end ServiceGen.Program

/-- The program. -/
def main (args : List String) : IO UInt32 :=
  ServiceGen.Program.call args
