import ServiceGen.Layout
import ServiceGen.Registration.Files
import ServiceGen.TemplateSet
import ServiceGen.Writer

/-!
# Support Files

The two helpers that all generated handlers import: one for the context of a request, one for
responses. A helper is written only if no handler source defines it and its file is free. The
file in which older projects kept both is cleared of what the helpers replace.
-/

namespace ServiceGen

/-- What was done about the support files. -/
structure SupportReport where
  /-- The files written. -/
  written : List String := []
  /-- Whether the old file was cleared. -/
  normalized : Bool := false
deriving DecidableEq, Inhabited

namespace Support

/-- What a source contains that defines the context helper. -/
def contextMarker : String := "fn build_request_context("

/-- What a source contains that defines the response helper. -/
def responseMarker : String := "fn json_ok<"

/-- The content of the old file once it is cleared. -/
def legacyStub : String :=
  "// Request context helpers live in `context.rs`; this file is kept for compatibility.\n"

/-- What the old file contains if it still has a context helper. -/
def legacyFragments : List String :=
  [contextMarker, "struct RequestContext", "impl RequestContext"]

/-- Whether a text contains another. -/
def mentions (fragment text : String) : Bool :=
  Text.contains fragment.toList text.toList

/-- Whether a line declares nothing: it is blank, a comment, an attribute of the whole file
or an import. -/
def isPreambleLine (line : List Char) : Bool :=
  let line := Text.trim line
  line.isEmpty || ['/', '/'].isPrefixOf line || ['#', '!', '['].isPrefixOf line
    || (['u', 's', 'e', ' '].isPrefixOf line && line.getLast? == some ';')

/-- Whether a text declares nothing. -/
def isPreamble (text : String) : Bool :=
  (Text.lines text.toList).all isPreambleLine

/-- Whether the old file has nothing of its own. -/
def isStale (text : String) : Bool :=
  isPreamble text || legacyFragments.any (mentions · text)

/-- Clears the old file if it has nothing of its own; whether it was changed. -/
def normalizeLegacy (path : String) : Work Bool := do
  if !(← get).isFile path then return false
  let text ← Work.read path
  if text == legacyStub || !isStale text then return false
  Work.write path legacyStub
  return true

/-- Whether a file below a directory is a test, judged by its place. -/
def isTest (place : List String) : Bool :=
  let stem := (place.getLast?.bind fun name => Path.stem? name.toList).getD []
  stem == "tests".toList || "_test".toList.isSuffixOf stem || "_tests".toList.isSuffixOf stem
    || place.contains "tests"

/-- Whether a file below a directory is a source of the program, judged by its place. -/
def isSource (place : List String) : Bool :=
  !isTest place
    && place.getLast?.bind (fun name => Path.extension? name.toList) == some ['r', 's']

/-- The texts of the sources below a directory, without the tests. -/
def sourcesBelow (dir : String) : Work (List String) := do
  match (← get).look dir with
  | .ok (.directory entries) =>
    let files := (FileTree.directory entries).files.filter (isSource ·.1)
    files.mapM fun (place, content) =>
      let path := joinPath dir ("/".intercalate place)
      Work.orFault .read path <| match content.text? with
        | some text => .ok text
        | none => .error .notText
  | _ => return []

/-- Writes a helper if no source has its marker and its file is free; whether it did. -/
def provide (set : TemplateSet) (writer : Writer) (crate : String) (sources : List String)
    (kind : TemplateKind) (marker path : String) : Work Bool := do
  if sources.any (mentions marker) then return false
  if (← get).exists? path then return false
  let content ← Work.ofExcept (set.renderSupport kind crate)
  return (← writer.write path content false) == .written

/-- Declares a helper in the index of the handlers if its file is there. -/
def declare (root name path : String) : Work Unit := do
  if (← get).isFile path then
    let _ ← Registration.declareInFile (joinPath (Layout.handlersDir root) "mod.rs") name

/-- Provides the support files of a project. -/
def ensure (root : String) (set : TemplateSet) (writer : Writer) (package : String) :
    Work SupportReport := do
  let context := Layout.contextHelperPath root
  let response := Layout.responseHelperPath root
  let crate := ModuleView.crateIdent package
  let normalized ← normalizeLegacy (Layout.legacyHelperPath root)
  let sources ← sourcesBelow (Layout.handlersDir root)
  let first ← provide set writer crate sources .contextHelper contextMarker context
  let second ← provide set writer crate sources .responseHelper responseMarker response
  declare root "context" context
  declare root "response" response
  let written := (if first then [context] else []) ++ (if second then [response] else [])
  return { written, normalized }

end Support

end ServiceGen
