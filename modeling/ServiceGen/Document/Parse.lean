import ServiceGen.Document.Read
import ServiceGen.Failure
import ServiceGen.Json.Text
import ServiceGen.SpecFormat
import ServiceGen.Yaml.Node

/-!
# Documents from Texts

Reading a document from the bytes of a JSON or YAML text. At most 128 levels of collections
are entered.
-/

namespace ServiceGen

namespace Document

/-- The number of levels of collections that may be entered. -/
def maxDepth : Nat := 128

/-- The document that a JSON text describes. -/
def ofJson? (bytes : List UInt8) : Option Document := do
  let d ← Json.parse? bytes
  let (document, _) ← read maxDepth d [] 0
  return document

/-- The document that a YAML text describes. -/
def ofYaml? (bytes : List UInt8) : Option Document := do
  let tree ← Yaml.Tree.parse? bytes
  let (document, _) ← read maxDepth tree.root tree.anchors tree.budget
  return document

/-- The document that a text in a given format describes. Where the format is not known,
YAML is tried first and JSON second. -/
def parse (bytes : List UInt8) : SpecFormat → Except Failure Document
  | .yaml => match ofYaml? bytes with
    | some d => .ok d
    | none => .error .malformedYaml
  | .json => match ofJson? bytes with
    | some d => .ok d
    | none => .error .malformedJson
  | .unknown => match (ofYaml? bytes).orElse fun _ => ofJson? bytes with
    | some d => .ok d
    | none => .error .unrecognizedFormat

end Document

end ServiceGen
