import ServiceGen.Failure
import ServiceGen.Text.Slice

/-!
# Imports in Order

The imports that a source begins with, in order and without repetition. Where they stand a parser
says, which may be any (`SourceParser`). Only a source that it takes for well-formed is touched,
and only if there is nothing but white space between its first imports.
-/

namespace ServiceGen.Source

/-- An import at the top of a source, as a parser finds it. Its places are numbers of characters. -/
structure FoundImport where
  /-- The place that its text begins at. -/
  start : Nat
  /-- The place that its text ends at. -/
  stop : Nat
  /-- The text of what it names, if that is there. -/
  tree? : Option (List Char)
  /-- Its whole text. -/
  text : List Char
deriving DecidableEq

/-- An item at the top of a source. -/
inductive TopItem
  | found (i : FoundImport)
  /-- An item that is no import. -/
  | other
deriving DecidableEq

/-- A parser of sources. -/
structure SourceParser where
  /-- The items at the top of a source, one behind the other; `none` if the source has errors. -/
  parse : List Char → Option (List TopItem)

/-- The imports that items begin with. -/
def TopItem.leading : List TopItem → List FoundImport
  | .found i :: items => i :: leading items
  | _ => []

/-- An import as it is compared with others. -/
structure Import where
  /-- What it names. -/
  tree : List Char
  /-- Its whole text. -/
  text : List Char
deriving DecidableEq

/-- An import without the place where it was found. -/
def FoundImport.entry (i : FoundImport) : Import where
  tree := i.tree?.getD []
  text := i.text

/-- The order of imports: by what they name, then by their text. -/
def Import.before (a b : Import) : Bool :=
  let (t, u) := (String.ofList a.tree, String.ofList b.tree)
  t < u || (t == u && String.ofList a.text ≤ String.ofList b.text)

/-- Imports without those that have the text of the one before. -/
def withoutRepeats : List Import → List Import
  | a :: b :: rest =>
    if a.text == b.text then withoutRepeats (a :: rest) else a :: withoutRepeats (b :: rest)
  | imports => imports
termination_by imports => imports.length

/-- Imports in order and without repetition. -/
def inOrder (imports : List Import) : List Import :=
  withoutRepeats (imports.mergeSort Import.before)

/-- Whether nothing but white space is left of a text when the text of each import is removed
from it. -/
def isBlankWithout (imports : List Import) (text : List Char) : Bool :=
  Text.isBlankText (imports.foldl (fun gaps i => Text.removeFirst i.text gaps) text)

/-- The text between two places of a source. -/
def textBetween (source : List Char) (start stop : Nat) : List Char :=
  (source.take stop).drop start

namespace SourceParser

/-- A source with its first imports in order. -/
def sortImports (parser : SourceParser) (source : List Char) : Except Failure (List Char) := do
  let some items := parser.parse source | throw .malformedSource
  let found := TopItem.leading items
  match found.head?, found.getLast? with
  | some first, some last =>
    let imports := found.map FoundImport.entry
    if !isBlankWithout imports (textBetween source first.start last.stop) then
      throw .textBetweenImports
    return source.take first.start ++ Text.join ['\n'] ((inOrder imports).map (·.text))
      ++ source.drop last.stop
  | _, _ => return source

/-- A source with the imports it begins with in order. -/
def organizeImports (parser : SourceParser) (source : String) : Except Failure String :=
  (parser.sortImports source.toList).map String.ofList

end SourceParser

end ServiceGen.Source
