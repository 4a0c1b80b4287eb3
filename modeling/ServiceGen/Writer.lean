import ServiceGen.Source.Imports
import ServiceGen.Workspace

/-!
# Writing Sources

How generated files get into a workspace. A file that exists is kept unless it is to be
replaced. A Rust source may be formatted first: its imports are put in order, and then a
formatter goes over it. What a step cannot deal with it leaves as it is.
-/

namespace ServiceGen

/-- Whether a file was written. -/
inductive WriteOutcome
  | written
  /-- The file was there already. -/
  | skipped
deriving DecidableEq, Inhabited

/-- How files are written. -/
structure Writer where
  /-- Whether sources are formatted. -/
  format : Bool := true
  /-- The parser that the imports of a source are found with. -/
  parser : Source.SourceParser := Source.recognizer
  /-- The formatter for sources; it may fail. -/
  formatter : String → Option String := fun _ => none

namespace Writer

/-- A source with its imports in order and formatted, as far as both succeed. -/
def formatSource (writer : Writer) (source : String) : String :=
  let organized := (writer.parser.organizeImports source).toOption.getD source
  (writer.formatter organized).getD organized

/-- The content that a file is written with. -/
def contentFor (writer : Writer) (path content : String) : String :=
  if writer.format && Path.extension? path.toList == some ['r', 's'] then
    writer.formatSource content
  else content

/-- Writes a file, in a directory that is made if it is missing. -/
def write (writer : Writer) (path content : String) (force : Bool) : Work WriteOutcome := do
  if !force && (← get).exists? path then return .skipped
  match Path.parent? path.toList with
  | some (c :: cs) => Work.makeDirectories (String.ofList (c :: cs))
  | _ => pure ()
  Work.write path (writer.contentFor path content) .writeFile
  return .written

end Writer

end ServiceGen
