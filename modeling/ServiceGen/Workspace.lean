import ServiceGen.Failure
import ServiceGen.FileTree
import ServiceGen.Path

/-!
# Workspaces

A tree of files together with the directory that relative paths start from, and what the
generator does with it: look paths up, read and write files, make directories. Work that fails
keeps what it has done so far.
-/

namespace ServiceGen

/-- A tree of files and the absolute path of the directory that one works in. -/
structure Workspace where
  tree : FileTree := .empty
  dir : String := "/"
deriving Inhabited

namespace Workspace

/-- The place that the pieces of a path lead to from a place, both innermost name first.
Everything before the last piece must be a directory. -/
def walk (tree : FileTree) : List (List Char) → List String → Except FileFault (List String)
  | [], place => .ok place
  | piece :: pieces, place =>
    match tree.at? place.reverse with
    | none => .error .notFound
    | some (.file _) => .error .notDirectory
    | some (.directory _) =>
      if piece == ['.'] then walk tree pieces place
      else if piece == ['.', '.'] then walk tree pieces place.tail
      else walk tree pieces (String.ofList piece :: place)

/-- The pieces of a path. One that ends with a slash ends with the piece `.`. -/
def pieces (path : List Char) : List (List Char) :=
  let named := (Text.splitAtChar '/' path).filter (!·.isEmpty)
  if path.getLast? == some '/' then named ++ [['.']] else named

/-- The place that a path leads to. -/
def locate (w : Workspace) (path : String) : Except FileFault (List String) :=
  (walk w.tree (pieces (Path.append w.dir.toList path.toList)) []).map List.reverse

/-- What a path leads to. -/
def look (w : Workspace) (path : String) : Except FileFault FileTree := do
  if path.isEmpty then throw .notFound
  let place ← w.locate path
  match w.tree.at? place with
  | some node => return node
  | none => throw .notFound

/-- Whether a path leads to something. -/
def exists? (w : Workspace) (path : String) : Bool :=
  (w.look path).toOption.isSome

/-- Whether a path leads to a file. -/
def isFile (w : Workspace) (path : String) : Bool :=
  (w.look path).toOption.any FileTree.isFile

/-- Whether a path leads to a directory. -/
def isDirectory (w : Workspace) (path : String) : Bool :=
  (w.look path).toOption.any (!·.isFile)

/-- The content of a file. -/
def content (w : Workspace) (path : String) : Except FileFault FileContent := do
  match ← w.look path with
  | .file content => return content
  | .directory _ => throw .isDirectory

/-- The text of a file. -/
def text (w : Workspace) (path : String) : Except FileFault String := do
  match (← w.content path).text? with
  | some text => return text
  | none => throw .notText

/-- The absolute path of a place. -/
def absolute (place : List String) : String :=
  "/" ++ "/".intercalate place

/-- The shortest absolute path of what a path leads to. -/
def canonical? (w : Workspace) (path : String) : Option String := do
  let _ ← (w.look path).toOption
  return absolute (← (w.locate path).toOption)

/-- The workspace with a text written to a file. A path that ends with a slash is that of a
directory. -/
def withText (w : Workspace) (path text : String) : Except FileFault Workspace := do
  let place ← w.locate (String.ofList (path.toList.reverse.dropWhile (· == '/')).reverse)
  if path.toList.getLast? == some '/' then throw .isDirectory
  match w.tree.at? place with
  | some (.directory _) => throw .isDirectory
  | _ => return { w with tree := FileTree.put (.file (.text text)) place w.tree }

/-- The workspace with a new directory. -/
def withDirectory (w : Workspace) (path : String) : Except FileFault Workspace := do
  let place ← w.locate path
  match w.tree.at? place with
  | some _ => throw .alreadyExists
  | none => return { w with tree := FileTree.put .empty place w.tree }

/-- The workspace with a directory and, where they are missing, those above it. The paths
are the directory and those above it, nearest first. -/
def withDirectoriesFrom (w : Workspace) : List String → Except FileFault Workspace
  | [] => .ok w
  | path :: above =>
    if path.isEmpty then .ok w
    else match w.withDirectory path with
      | .ok made => .ok made
      | .error .notFound => do
        let w ← withDirectoriesFrom w above
        match w.withDirectory path with
        | .ok made => return made
        | .error fault => if w.isDirectory path then return w else throw fault
      | .error fault => if w.isDirectory path then .ok w else .error fault

/-- The workspace with a directory and, where they are missing, those above it. -/
def withDirectories (w : Workspace) (path : String) : Except FileFault Workspace :=
  w.withDirectoriesFrom ((Path.allAncestors path.toList).map String.ofList)

end Workspace

/-- Work on the files of a workspace. -/
abbrev Work := ExceptT Failure (StateM Workspace)

namespace Work

/-- An outcome; a fault becomes a failure of an action on a path. -/
def orFault {α : Type} (action : FileAction) (path : String) : Except FileFault α → Work α
  | .ok a => return a
  | .error fault => throw (.file action path fault)

/-- An outcome or a failure. -/
def ofExcept {α : Type} : Except Failure α → Work α
  | .ok a => return a
  | .error failure => throw failure

/-- The text of a file. -/
def read (path : String) (action : FileAction := .read) : Work String := do
  orFault action path ((← get).text path)

/-- Writes a text to a file. -/
def write (path text : String) (action : FileAction := .write) : Work Unit := do
  set (← orFault action path ((← get).withText path text))

/-- Makes a directory and those above it. -/
def makeDirectories (path : String) : Work Unit := do
  set (← orFault .createDirectory path ((← get).withDirectories path))

/-- What work gives on a workspace, and the workspace after it. -/
def runOn {α : Type} (work : Work α) (w : Workspace) : Except Failure α × Workspace :=
  (work.run).run w

end Work

end ServiceGen
