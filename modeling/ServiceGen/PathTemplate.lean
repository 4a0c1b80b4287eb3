import ServiceGen.Text.Slice

/-!
# Path Templates

A path template such as `/files/{dir}/{name}.{ext}` is read once, from the left, into
pieces: text that stands for itself and placeholders. A placeholder is a brace, one or more
characters other than braces and slashes, and a closing brace; a brace that begins no
placeholder stands for itself. `render` writes the pieces of a template out again, so
`placeholders` and `fill` see the same placeholders.
-/

namespace ServiceGen.PathTemplate

/-- A piece of a path template. -/
inductive Piece
  /-- One character that stands for itself. -/
  | char (c : Char)
  /-- A placeholder with its name. -/
  | hole (name : List Char)
deriving DecidableEq

/-- The pieces of an unfinished placeholder, whose name so far is `name` in reverse, that
turned out to be none. -/
def Piece.flush (name : List Char) : List Piece :=
  .char '{' :: (name.reverse.map .char)

/-- Reads the pieces of a template. `pending` is the name so far, in reverse, of a
placeholder whose brace has been read. -/
def scanFrom : Option (List Char) → List Char → List Piece
  | none, [] => []
  | some name, [] => Piece.flush name
  | none, c :: rest =>
    if c = '{' then scanFrom (some []) rest else .char c :: scanFrom none rest
  | some name, c :: rest =>
    if c = '{' then Piece.flush name ++ scanFrom (some []) rest
    else if c = '}' ∧ name ≠ [] then .hole name.reverse :: scanFrom none rest
    else if c = '}' ∨ c = '/' then Piece.flush name ++ .char c :: scanFrom none rest
    else scanFrom (some (c :: name)) rest

/-- The pieces of a template. -/
def scan (path : List Char) : List Piece :=
  scanFrom none path

/-- The pieces written out, each placeholder as `fill` gives it. -/
def render (fill : List Char → List Char) (pieces : List Piece) : List Char :=
  pieces.flatMap fun
    | .char c => [c]
    | .hole name => fill name

/-- The names of the placeholders of a template, in order. -/
def placeholders (path : String) : List String :=
  (scan path.toList).filterMap fun
    | .char _ => none
    | .hole name => some (String.ofList name)

/-- The template with each placeholder replaced. -/
def fill (path : String) (value : String → String) : String :=
  String.ofList (render (fun name => (value (String.ofList name)).toList) (scan path.toList))

/-- Whether a segment is a placeholder from its first to its last character. -/
def isPlaceholderSegment (segment : List Char) : Bool :=
  segment.head? == some '{' && segment.getLast? == some '}'

/-- The segments of a path: the pieces between slashes. -/
def segments (path : String) : List (List Char) :=
  Text.splitAtChar '/' path.toList

/-- The segments that are neither empty nor a placeholder. -/
def staticSegments (path : String) : List String :=
  ((segments path).filter fun s => !s.isEmpty && !isPlaceholderSegment s).map String.ofList

/-- Whether a lower-case segment names a version: `v` with digits after it, or alone. -/
def isVersionSegment : List Char → Bool
  | 'v' :: rest => rest.all Char.isDigit
  | _ => false

/-- The name under which the operations of a path are grouped when no tag does it: the first
segment that is not `api`, a version or a placeholder, in lower case. -/
def moduleName? (path : String) : Option String :=
  let candidates := ((segments path).map Text.trim).filter (!·.isEmpty)
  ((candidates.map Text.Letter.lowerText).find? fun s =>
    s != "api".toList && !isVersionSegment s && !isPlaceholderSegment s).map String.ofList

/-- Whether the path has a placeholder. -/
def hasPlaceholder (path : String) : Bool :=
  !(placeholders path).isEmpty

end ServiceGen.PathTemplate
