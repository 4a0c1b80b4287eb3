import ServiceGen.Entries
import ServiceGen.Text.Utf8

/-!
# File Trees

Directories and files as values. A place in a tree is the list of names that leads to it; the
entries of a directory are in ascending order of their names.
-/

namespace ServiceGen

/-- What a file holds. -/
inductive FileContent
  | text (value : String)
  /-- Bytes that are no text. -/
  | binary (bytes : List UInt8)
deriving DecidableEq, Inhabited

namespace FileContent

/-- Bytes as the content of a file. -/
def ofBytes (bytes : List UInt8) : FileContent :=
  match Text.Utf8.decode? bytes with
  | some cs => .text (String.ofList cs)
  | none => .binary bytes

/-- The bytes of a file. -/
def bytes : FileContent → List UInt8
  | .text s => Text.Utf8.encode s.toList
  | .binary bytes => bytes

/-- The text of a file. -/
def text? : FileContent → Option String
  | .text s => some s
  | .binary _ => none

end FileContent

/-- A file or a directory. -/
inductive FileTree
  | file (content : FileContent)
  | directory (entries : List (String × FileTree))
deriving Inhabited

namespace FileTree

/-- A directory without entries. -/
def empty : FileTree :=
  .directory []

/-- Whether this is a file. -/
def isFile : FileTree → Bool
  | .file _ => true
  | .directory _ => false

/-- What stands at a place. -/
def at? : List String → FileTree → Option FileTree
  | [], tree => some tree
  | _ :: _, .file _ => none
  | name :: names, .directory entries => (Entries.get? entries name).bind (at? names)

/-- The tree with something at a place, in directories that are made where they are missing.
Nothing changes if there is a file on the way. -/
def put (node : FileTree) : List String → FileTree → FileTree
  | [], _ => node
  | _ :: _, .file content => .file content
  | name :: names, .directory entries =>
    let below := (Entries.get? entries name).getD empty
    .directory (Entries.putSorted name (put node names below) entries)

/-- The tree without what stands at a place. -/
def erase : List String → FileTree → FileTree
  | [], tree => tree
  | _, .file content => .file content
  | [name], .directory entries => .directory (entries.filter (·.1 != name))
  | name :: names, .directory entries =>
    .directory (entries.map fun (other, below) =>
      (other, if other == name then erase names below else below))

mutual

/-- All files with their places below a place, in ascending order of their names. -/
def filesBelow (place : List String) : FileTree → List (List String × FileContent)
  | .file content => [(place, content)]
  | .directory entries => filesOf place entries

/-- All files of the entries of a directory. -/
def filesOf (place : List String) : List (String × FileTree) → List (List String × FileContent)
  | [] => []
  | (name, tree) :: rest => filesBelow (place ++ [name]) tree ++ filesOf place rest

end

/-- All files with their places. -/
def files (tree : FileTree) : List (List String × FileContent) :=
  tree.filesBelow []

theorem at?_nil (tree : FileTree) : tree.at? [] = some tree := by
  cases tree <;> rfl

end FileTree

end ServiceGen
