import ServiceGen.Text.Slice

/-!
# Paths

Paths are texts with slashes between their segments. Empty segments and segments `.` are
passed over, except for a `.` that a relative path begins with; `..` is a segment like any
other until the path is looked up in a tree. A path is absolute if it begins with a slash.
-/

namespace ServiceGen.Path

/-- The text of a path. -/
abbrev Chars := List Char

/-- Whether a path begins at the root. -/
def isAbsolute (path : Chars) : Bool :=
  path.head? == some '/'

/-- A path seen from a directory: an absolute path is itself, any other is appended. -/
def append (dir path : Chars) : Chars :=
  if isAbsolute path || dir.isEmpty then path
  else if dir.getLast? == some '/' then dir ++ path
  else dir ++ '/' :: path

/-- What a path begins with before its segments. -/
inductive Lead
  /-- The slash of an absolute path. -/
  | root
  /-- The `.` of a relative path. -/
  | here
  /-- Nothing. -/
  | none
deriving DecidableEq

/-- The lead of a path and the pieces between its other slashes. -/
def split (path : Chars) : Lead × List Chars :=
  match path with
  | '/' :: rest => (.root, Text.splitAtChar '/' rest)
  | _ =>
    match Text.splitAtChar '/' path with
    | ['.'] :: rest => (.here, rest)
    | pieces => (.none, pieces)

/-- The path with a given lead and pieces. -/
def unsplit : Lead → List Chars → Chars
  | .root, pieces => '/' :: Text.join ['/'] pieces
  | .here, [] => ['.']
  | .here, pieces => '.' :: '/' :: Text.join ['/'] pieces
  | .none, pieces => Text.join ['/'] pieces

/-- Whether a piece is passed over. -/
def isIdle (piece : Chars) : Bool :=
  piece.isEmpty || piece == ['.']

/-- The pieces without idle ones at the end. -/
def dropIdleEnd (pieces : List Chars) : List Chars :=
  (pieces.reverse.dropWhile isIdle).reverse

/-- The segments of a path, without its lead and idle pieces. -/
def segments (path : Chars) : List Chars :=
  (split path).2.filter (!isIdle ·)

/-- The path without its last segment; `none` where there is none to remove. -/
def parent? (path : Chars) : Option Chars :=
  let (lead, pieces) := split path
  match dropIdleEnd pieces with
  | [] => if lead = .here then some [] else none
  | kept => some (unsplit lead (dropIdleEnd kept.dropLast))

/-- A path and the paths above it, nearest first, at most `n` of them. -/
def ancestors : Nat → Chars → List Chars
  | 0, _ => []
  | n + 1, path => path :: (match parent? path with
    | some above => ancestors n above
    | none => [])

/-- A path and all paths above it. -/
def allAncestors (path : Chars) : List Chars :=
  ancestors (path.length + 1) path

/-- The last segment, unless it is `..`. -/
def fileName? (path : Chars) : Option Chars :=
  match (segments path).getLast? with
  | some name => if name == ['.', '.'] then none else some name
  | none => none

/-- The part of a file name before its last dot, and the part after it. A dot that the name
begins with does not count. -/
def cutExtension (name : Chars) : Chars × Option Chars :=
  let after := (name.reverse.takeWhile (· != '.')).reverse
  let before := name.take (name.length - after.length - 1)
  if after.length == name.length || before.isEmpty then (name, none) else (before, some after)

/-- The extension of the last segment. -/
def extension? (path : Chars) : Option Chars := do
  (cutExtension (← fileName? path)).2

/-- The last segment without its extension. -/
def stem? (path : Chars) : Option Chars :=
  (fileName? path).map fun name => (cutExtension name).1

/-- The pieces that remain when `n` segments and the idle pieces around them are removed
from the front. -/
def dropSegments : Nat → List Chars → List Chars
  | 0, pieces => pieces.dropWhile isIdle
  | _ + 1, [] => []
  | n + 1, piece :: pieces =>
    if isIdle piece then dropSegments (n + 1) pieces else dropSegments n pieces

/-- The rest of a path inside a directory, if the segments of the directory begin it. -/
def relativeTo? (dir path : Chars) : Option Chars :=
  let (lead, pieces) := split path
  let (dirLead, _) := split dir
  if dir.isEmpty then some path
  else if lead = dirLead && (segments dir).isPrefixOf (segments path) then
    some (Text.join ['/'] (dropIdleEnd (dropSegments (segments dir).length pieces)))
  else none

end ServiceGen.Path

namespace ServiceGen

/-- A path seen from a directory. -/
def joinPath (dir path : String) : String :=
  String.ofList (Path.append dir.toList path.toList)

end ServiceGen
