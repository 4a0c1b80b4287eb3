import ServiceGen.Document
import ServiceGen.Failure
import ServiceGen.Text.Identifier
import ServiceGen.Text.Plural

/-!
# Scaffold Documents

The document that stands in where none is given: the five usual operations on one resource.

A name makes a document if its snake-case form can be a module name, and if its paths are
short enough to be keys of a description, which have at most 1024 characters.
-/

namespace ServiceGen.Scaffold

/-- A schema of a type. -/
def typed (name : String) : Schema :=
  .ofType name

/-- The shape of an identifier. -/
def idSchema : Schema :=
  { typed "integer" with format := some "int64" }

/-- A reference to a named schema. -/
def schemaRef (name : String) : Schema :=
  .ofReference ("#/components/schemas/" ++ name)

/-- An object with properties. -/
def object (required : List String) (properties : List (String × Schema)) : Schema :=
  { typed "object" with required, properties }

/-- A JSON body. -/
def json (schema : Schema) : Entries MediaType :=
  [("application/json", { schema := some schema })]

/-- The response with one resource. -/
def singleResponse (pascal : String) : Entries (RefOr Response) :=
  [("200", .reference ("#/components/responses/" ++ pascal ++ "Single"))]

/-- The body with the fields of a resource. -/
def input (pascal : String) : Option (RefOr RequestBody) :=
  some (.item { content := json (schemaRef (pascal ++ "Input")) })

/-- The operations on the collection. -/
def collection (module plural pascal : String) : PathItem where
  get := some {
    tags := [module]
    summary := some ("List " ++ plural)
    parameters := [
      .item { name := "page", schema := some { typed "integer" with minimum := some (.ofNat 1) } },
      .item {
        name := "page_size"
        schema := some {
          typed "integer" with minimum := some (.ofNat 1), maximum := some (.ofNat 100) } }]
    responses := [("200", .item {
      description := some "OK"
      content := json (object [] [("data", object [] [
        ("list", { typed "array" with items := some (schemaRef pascal) }),
        ("total", idSchema)])]) })] }
  post := some {
    tags := [module]
    summary := some ("Create a " ++ module)
    requestBody := input pascal
    responses := singleResponse pascal }

/-- The operations on one resource. -/
def resource (module pascal : String) : PathItem where
  parameters := [.item {
    name := "id", location := .path, required := true, schema := some idSchema }]
  get := some {
    tags := [module]
    summary := some ("Get a " ++ module ++ " by id")
    responses := singleResponse pascal }
  put := some {
    tags := [module]
    summary := some ("Update a " ++ module)
    requestBody := input pascal
    responses := singleResponse pascal }
  delete := some {
    tags := [module]
    summary := some ("Delete a " ++ module)
    responses := [("200", .item { description := some "OK" })] }

/-- The components. -/
def components (pascal : String) : Components where
  schemas := [
    (pascal, object ["id", "name"] [("id", idSchema), ("name", typed "string")]),
    (pascal ++ "Input",
      object ["name"] [("name", { typed "string" with maxLength := some 255 })])]
  responses := [(pascal ++ "Single", .item {
    description := some "OK"
    content := json (object [] [("data", schemaRef pascal)]) })]

/-- The path of one resource in a collection. -/
def resourcePath (plural : String) : String :=
  "/" ++ plural ++ "/\x7bid\x7d"

/-- The greatest length of a key of a description. -/
def maxKeyLength : Nat := 1024

/-- The document of a module with a given name. -/
def document (name : String) : Except Failure Document :=
  let module := snakeCase name
  let plural := pluralOf module
  let pascal := pascalCase module
  if !isModuleSafe module then .error (.invalidModuleName name)
  else if maxKeyLength < (resourcePath plural).length then .error .malformedYaml
  else .ok {
    openapi := some "3.0.3"
    info := { title := pascal ++ " API", version := "0.1.0" }
    tags := [{ name := module }]
    paths := [
      ("/" ++ plural, collection module plural pascal),
      (resourcePath plural, resource module pascal)]
    components := components pascal }

end ServiceGen.Scaffold
