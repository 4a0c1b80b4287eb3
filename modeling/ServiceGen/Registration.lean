import ServiceGen.Text.Slice

/-!
# Registration Lists

A project registers its components in hand-written files: in lists such as
`provide_logic!(...)`, and by `pub mod` lines in module indexes. `insertItem` adds an item
to a list and `declareModule` a line to an index. Both change nothing if the entry is
there, and neither needs the file to be well-formed otherwise: the close of a list is found
by counting parentheses, and a missing list is reported and not an error.
-/

namespace ServiceGen.Registration

/-- What an attempt to register something did. -/
inductive Outcome
  /-- The entry was added. -/
  | inserted
  /-- The entry was there already. -/
  | alreadyPresent
  /-- The text has no list, or none with an end. -/
  | markerNotFound
  /-- There is no such file. -/
  | fileMissing
deriving DecidableEq

/-- The openings of the list of business-logic constructors, narrowest first. -/
def logicMarkers : List String := ["provide_logic!(", "provide!("]

/-- The openings of the list of route constructors, narrowest first. -/
def handlerMarkers : List String := ["provide_handlers!(", "provide!("]

/-- The number of characters before the parenthesis that closes `depth + 1` open ones. -/
def closeFrom : Nat → List Char → Option Nat
  | _, [] => none
  | depth, c :: rest =>
    if c = '(' then (closeFrom (depth + 1) rest).map (· + 1)
    else if c = ')' then
      match depth with
      | 0 => some 0
      | d + 1 => (closeFrom d rest).map (· + 1)
    else (closeFrom depth rest).map (· + 1)

/-- A list found in a source. -/
structure ListSite where
  /-- The text up to the opening of the list. -/
  before : List Char
  /-- The opening itself. -/
  marker : List Char
  /-- What stands between the opening and its close. -/
  interior : List Char
  /-- The text from the close on. -/
  after : List Char

/-- The list that the first marker found opens, if it is closed. -/
def findList? (source : List Char) (markers : List (List Char)) : Option ListSite := do
  let (marker, start) ← markers.findSome? fun m => (Text.indexOf? m source).map (m, ·)
  let inside := source.drop (start + marker.length)
  let size ← closeFrom 0 inside
  return ⟨source.take start, marker, inside.take size, inside.drop size⟩

/-- The part of a line before a comment. -/
def codeOf (line : List Char) : List Char :=
  match Text.indexOf? ['/', '/'] line with
  | some i => line.take i
  | none => line

/-- Ends the last entry of a list with a comma, unless it has one. The lines come last line
first; lines that hold only a comment are passed over. -/
def endLastEntry : List (List Char) → List (List Char)
  | [] => []
  | line :: earlier =>
    let code := Text.trimEnd (codeOf line)
    if code.isEmpty then line :: endLastEntry earlier
    else if code.getLast? = some ',' then line :: earlier
    else (code ++ ',' :: line.drop code.length) :: earlier

/-- The white space that a text begins with. -/
def indentation (cs : List Char) : List Char :=
  cs.takeWhile Text.Letter.isBlank

/-- The indentation of a new entry: that of the last entry where the list stands on several
lines, and four more than the line of the opening otherwise. -/
def entryIndent (site : ListSite) (entries : List Char) : List Char :=
  if entries.contains '\n' then
    match (Text.lines entries).reverse.find? (!Text.isBlankText ·) with
    | some line => indentation line
    | none => []
  else
    let lineStart := (site.before.reverse.takeWhile (· != '\n')).reverse
    indentation (lineStart ++ site.marker ++ site.interior ++ site.after)
      ++ [' ', ' ', ' ', ' ']

/-- The interior of a list with an item added at its end. -/
def extendInterior (site : ListSite) (item : List Char) : List Char :=
  if Text.isBlankText site.interior then item
  else
    let entries := Text.trimEnd site.interior
    let ended := (endLastEntry (Text.splitAtChar '\n' entries).reverse).reverse
    Text.join ['\n'] ended ++ '\n' :: entryIndent site entries ++ item ++ [',']
      ++ site.interior.drop entries.length

/-- A source with an item added to the list that one of the markers opens. -/
def insertItemChars (source item : List Char) (markers : List (List Char)) :
    Outcome × List Char :=
  if Text.contains item source then (.alreadyPresent, source)
  else match findList? source markers with
    | none => (.markerNotFound, source)
    | some site =>
      (.inserted, site.before ++ site.marker ++ extendInterior site item ++ site.after)

/-- A source with an item added to the list that one of the markers opens. -/
def insertItem (source item : String) (markers : List String) : Outcome × String :=
  let (outcome, text) := insertItemChars source.toList item.toList (markers.map String.toList)
  (outcome, String.ofList text)

/-- The line that declares a module. -/
def declaration (name : String) : String :=
  "pub mod " ++ name ++ ";"

/-- Whether a line of an index declares a module. -/
def declares (name : String) (line : List Char) : Bool :=
  let line := String.ofList (Text.trim line)
  line == declaration name || line == "mod " ++ name ++ ";"

/-- A module index with a line for a module at its end, unless some line declares it. -/
def declareModule (source name : String) : Outcome × String :=
  if (Text.lines source.toList).any (declares name) then (.alreadyPresent, source)
  else
    let ended := if source.isEmpty || source.toList.getLast? == some '\n' then source
      else source ++ "\n"
    (.inserted, ended ++ declaration name ++ "\n")

end ServiceGen.Registration
