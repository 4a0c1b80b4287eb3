import ServiceGen.Document.Read

/-!
# Writing Documents

Documents as JSON values. Every field is written, with null for an absent value, except that
a schema leaves out what it does not say.
-/

namespace ServiceGen

/-- Values under names as an object. -/
def Entries.toJson {α : Type} (value : α → Json) (entries : Entries α) : Json :=
  .object (entries.map fun (name, x) => (name, value x))

/-- A list of values. -/
def Json.ofList {α : Type} (value : α → Json) (xs : List α) : Json :=
  .list (xs.map value)

/-- A value that may be absent. -/
def Json.ofOption {α : Type} (value : α → Json) : Option α → Json
  | some x => value x
  | none => .null

/-- A type keyword. -/
def SchemaType.toJson : SchemaType → Json
  | .single name => .text name
  | .multiple names => .ofTexts names

/-- A floating-point number, or null if it is not finite. -/
def Json.ofFloat (x : Binary64) : Json :=
  if x.isFinite then .float x else .null

namespace Schema

/-- A member that is there only if the value is. -/
def memberOf? {α : Type} (name : String) (value : α → Json) (x : Option α) :
    List (String × Json) :=
  match x with
  | some x => [(name, value x)]
  | none => []

/-- A member that is there only if the list is not empty. -/
def memberOfList (name : String) (items : List Json) : List (String × Json) :=
  if items.isEmpty then [] else [(name, .list items)]

mutual

/-- A schema. -/
def toJson : Schema → Json
  | ⟨reference, type, format, title, description, properties, items, required, allOf, oneOf,
      anyOf, not, enumeration, minLength, maxLength, minimum, maximum, pattern, minItems,
      maxItems⟩ =>
    let propertyMembers := propertiesToJson properties
    .object (
      memberOf? "$ref" .text reference
      ++ memberOf? "type" SchemaType.toJson type
      ++ memberOf? "format" .text format
      ++ memberOf? "title" .text title
      ++ memberOf? "description" .text description
      ++ (if propertyMembers.isEmpty then [] else [("properties", .object propertyMembers)])
      ++ optionToJson "items" items
      ++ memberOfList "required" (required.map .text)
      ++ memberOfList "allOf" (listToJson allOf)
      ++ memberOfList "oneOf" (listToJson oneOf)
      ++ memberOfList "anyOf" (listToJson anyOf)
      ++ optionToJson "not" not
      ++ memberOfList "enum" enumeration
      ++ memberOf? "minLength" (fun n : Nat => .int n) minLength
      ++ memberOf? "maxLength" (fun n : Nat => .int n) maxLength
      ++ memberOf? "minimum" Json.ofFloat minimum
      ++ memberOf? "maximum" Json.ofFloat maximum
      ++ memberOf? "pattern" .text pattern
      ++ memberOf? "minItems" (fun n : Nat => .int n) minItems
      ++ memberOf? "maxItems" (fun n : Nat => .int n) maxItems)

/-- A schema under a name, if there is one. -/
def optionToJson (name : String) : Option Schema → List (String × Json)
  | some schema => [(name, schema.toJson)]
  | none => []

/-- A list of schemas. -/
def listToJson : List Schema → List Json
  | [] => []
  | schema :: schemas => schema.toJson :: listToJson schemas

/-- Named schemas. -/
def propertiesToJson : List (String × Schema) → List (String × Json)
  | [] => []
  | (name, schema) :: properties => (name, schema.toJson) :: propertiesToJson properties

end

end Schema

/-- A reference or an item. -/
def RefOr.toJson {α : Type} (item : α → Json) : RefOr α → Json
  | .reference target => .object [("$ref", .text target)]
  | .item value => item value

/-- A parameter. -/
def Parameter.toJson (p : Parameter) : Json :=
  .object [
    ("name", .text p.name),
    ("in", .text p.location.label),
    ("required", .bool p.required),
    ("description", .ofText? p.description),
    ("schema", .ofOption Schema.toJson p.schema)]

/-- The content of a body in one media type. -/
def MediaType.toJson (m : MediaType) : Json :=
  .object [("schema", .ofOption Schema.toJson m.schema)]

/-- The body of a request. -/
def RequestBody.toJson (b : RequestBody) : Json :=
  .object [
    ("description", .ofText? b.description),
    ("content", b.content.toJson MediaType.toJson),
    ("required", .bool b.required)]

/-- A response. -/
def Response.toJson (r : Response) : Json :=
  .object [
    ("description", .ofText? r.description),
    ("content", r.content.toJson MediaType.toJson)]

/-- The declaration of an error code. -/
def ErrorCode.toJson (e : ErrorCode) : Json :=
  .object [
    ("code", .int e.code),
    ("name", .text e.name),
    ("message", .text e.message),
    ("status", .ofNat? e.status),
    ("module", .ofText? e.module)]

/-- An operation. -/
def Operation.toJson (o : Operation) : Json :=
  .object [
    ("tags", .ofTexts o.tags),
    ("summary", .ofText? o.summary),
    ("description", .ofText? o.description),
    ("operationId", .ofText? o.operationId),
    ("parameters", .ofList (RefOr.toJson Parameter.toJson) o.parameters),
    ("requestBody", .ofOption (RefOr.toJson RequestBody.toJson) o.requestBody),
    ("responses", o.responses.toJson (RefOr.toJson Response.toJson)),
    ("deprecated", .bool o.deprecated),
    ("x-error-codes", .ofList ErrorCode.toJson o.errorCodes)]

/-- A path item. -/
def PathItem.toJson (p : PathItem) : Json :=
  .object [
    ("summary", .ofText? p.summary),
    ("parameters", .ofList (RefOr.toJson Parameter.toJson) p.parameters),
    ("get", .ofOption Operation.toJson p.get),
    ("post", .ofOption Operation.toJson p.post),
    ("put", .ofOption Operation.toJson p.put),
    ("delete", .ofOption Operation.toJson p.delete),
    ("patch", .ofOption Operation.toJson p.patch)]

/-- The title and version of a description. -/
def Info.toJson (i : Info) : Json :=
  .object [
    ("title", .text i.title), ("version", .text i.version), ("description", .ofText? i.description)]

/-- A server. -/
def Server.toJson (s : Server) : Json :=
  .object [("url", .text s.url), ("description", .ofText? s.description)]

/-- The declaration of a tag. -/
def Tag.toJson (t : Tag) : Json :=
  .object [("name", .text t.name), ("description", .ofText? t.description)]

/-- The named components. -/
def Components.toJson (c : Components) : Json :=
  .object [
    ("schemas", c.schemas.toJson Schema.toJson),
    ("parameters", c.parameters.toJson (RefOr.toJson Parameter.toJson)),
    ("requestBodies", c.requestBodies.toJson (RefOr.toJson RequestBody.toJson)),
    ("responses", c.responses.toJson (RefOr.toJson Response.toJson))]

/-- A document. -/
def Document.toJson (d : Document) : Json :=
  .object [
    ("openapi", .ofText? d.openapi),
    ("info", d.info.toJson),
    ("servers", .ofList Server.toJson d.servers),
    ("paths", d.paths.toJson PathItem.toJson),
    ("components", d.components.toJson),
    ("tags", .ofList Tag.toJson d.tags),
    ("x-error-codes", .ofList ErrorCode.toJson d.errorCodes)]

end ServiceGen
