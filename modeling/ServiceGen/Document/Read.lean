import ServiceGen.Datum
import ServiceGen.Document

/-!
# Reading Documents

How the parts of an API description are read from a `Datum`. Unknown fields are passed over,
and nearly every field may be missing.

Every `read` takes the number of levels of collections that may be entered below it. Where
an item or a reference may stand (`RefOr`), and where a field has two forms, the datum is
settled first and then read in the first form that fits.
-/

namespace ServiceGen

open Datum

namespace SchemaType

/-- A type keyword: a text, or a list of texts. -/
def read (depth : Nat) (d : Datum) : Reading SchemaType := do
  let d ← d.settle depth
  either (return .single (← d.readText)) (return .multiple (← d.readList depth readText))

end SchemaType

/-- The names of required properties. A truth value in their place says nothing. -/
def readRequired (depth : Nat) (d : Datum) : Reading (List String) := do
  let names (d : Datum) : Reading (List String) := do
    let d ← d.settle depth
    either (d.readList depth readText) (do let _ ← d.readBool; return [])
  return (← d.readOptional names).getD []

namespace Schema

/-- The names of the fields of a schema. -/
def fieldNames : List String := [
  "$ref", "type", "format", "title", "description", "properties", "items", "required", "allOf",
  "oneOf", "anyOf", "not", "enum", "minLength", "maxLength", "minimum", "maximum", "pattern",
  "minItems", "maxItems"]

/-- A schema, given how the schemas one and two levels below it are read. -/
def readWith (depth : Nat) (child grandchild : Datum → Reading Schema) (d : Datum) :
    Reading Schema := do
  let inner := depth - 1
  let f ← d.readFields depth fieldNames
  let text (name : String) : Reading (Option String) :=
    fieldOr f name none (readOptional readText)
  let nat (name : String) : Reading (Option Nat) :=
    fieldOr f name none (readOptional (readNat (Nat.pow 2 64)))
  let float (name : String) : Reading (Option Binary64) :=
    fieldOr f name none (readOptional readFloat)
  let schema (name : String) : Reading (Option Schema) :=
    fieldOr f name none (readOptional child)
  let schemas (name : String) : Reading (List Schema) :=
    fieldOr f name [] (readList inner grandchild)
  return {
    reference := ← text "$ref"
    type := ← fieldOr f "type" none (readOptional (SchemaType.read inner))
    format := ← text "format"
    title := ← text "title"
    description := ← text "description"
    properties := Entries.ofList (← fieldOr f "properties" [] (readEntries inner grandchild))
    items := ← schema "items"
    required := ← fieldOr f "required" [] (readRequired inner)
    allOf := ← schemas "allOf"
    oneOf := ← schemas "oneOf"
    anyOf := ← schemas "anyOf"
    not := ← schema "not"
    enumeration := ← fieldOr f "enum" [] (readList inner (readJson (inner - 1)))
    minLength := ← nat "minLength"
    maxLength := ← nat "maxLength"
    minimum := ← float "minimum"
    maximum := ← float "maximum"
    pattern := ← text "pattern"
    minItems := ← nat "minItems"
    maxItems := ← nat "maxItems" }

/-- A schema. -/
def read : Nat → Datum → Reading Schema
  | 0 => readWith 0 (fun _ => refuse) (fun _ => refuse)
  | 1 => readWith 1 (read 0) (fun _ => refuse)
  | depth + 2 => readWith (depth + 2) (read (depth + 1)) (read depth)

end Schema

namespace RefOr

/-- A reference to a named item. -/
def readReference (depth : Nat) (d : Datum) : Reading String := do
  let f ← d.readFields depth ["$ref"]
  fieldOf f "$ref" readText

/-- A reference, or else an item. -/
def read {α : Type} (readItem : Nat → Datum → Reading α) (depth : Nat) (d : Datum) :
    Reading (RefOr α) := do
  let d ← d.settle depth
  either (return .reference (← readReference depth d)) (return .item (← readItem depth d))

end RefOr

namespace ParameterLocation

/-- The word for a location. -/
def label : ParameterLocation → String
  | .path => "path"
  | .query => "query"
  | .header => "header"
  | .cookie => "cookie"

/-- All locations. -/
def all : List ParameterLocation :=
  [.path, .query, .header, .cookie]

/-- The location that a datum names, by its word or its position. -/
def ofKey (d : Datum) : Reading ParameterLocation :=
  match d with
  | .text s => require (all.find? (·.label == s))
  | .natural n => require all[n]?
  | _ => refuse

/-- A location: its word, or a dictionary with that word as its only key and no value. -/
def read (d : Datum) : Reading ParameterLocation := do
  match ← d.follow with
  | .text s => ofKey (.text s)
  | .dict _ [(key, .null)] => ofKey key
  | _ => refuse

end ParameterLocation

/-- A parameter. -/
def Parameter.read (depth : Nat) (d : Datum) : Reading Parameter := do
  let f ← d.readFields depth ["name", "in", "required", "description", "schema"]
  return {
    name := ← fieldOf f "name" readText
    location := ← fieldOr f "in" .query ParameterLocation.read
    required := ← fieldOr f "required" false readBool
    description := ← fieldOr f "description" none (readOptional readText)
    schema := ← fieldOr f "schema" none (readOptional (Schema.read (depth - 1))) }

/-- The content of a body in one media type. -/
def MediaType.read (depth : Nat) (d : Datum) : Reading MediaType := do
  let f ← d.readFields depth ["schema"]
  return { schema := ← fieldOr f "schema" none (readOptional (Schema.read (depth - 1))) }

/-- The content of a body by media type. -/
def readContent (depth : Nat) (d : Datum) : Reading (Entries MediaType) := do
  return Entries.ofList (← d.readEntries depth (MediaType.read (depth - 1)))

/-- The body of a request. -/
def RequestBody.read (depth : Nat) (d : Datum) : Reading RequestBody := do
  let f ← d.readFields depth ["description", "content", "required"]
  return {
    description := ← fieldOr f "description" none (readOptional readText)
    content := ← fieldOr f "content" [] (readContent (depth - 1))
    required := ← fieldOr f "required" false readBool }

/-- A response. -/
def Response.read (depth : Nat) (d : Datum) : Reading Response := do
  let f ← d.readFields depth ["description", "content"]
  return {
    description := ← fieldOr f "description" none (readOptional readText)
    content := ← fieldOr f "content" [] (readContent (depth - 1)) }

/-- The declaration of an error code. -/
def ErrorCode.read (depth : Nat) (d : Datum) : Reading ErrorCode := do
  let f ← d.readFields depth ["code", "name", "message", "status", "module"]
  return {
    code := ← fieldOf f "code" readInt
    name := ← fieldOf f "name" readText
    message := ← fieldOr f "message" "" readText
    status := ← fieldOr f "status" none (readOptional (readNat (Nat.pow 2 16)))
    module := ← fieldOr f "module" none (readOptional readText) }

/-- The names of the fields of an operation. -/
def Operation.fieldNames : List String := [
  "tags", "summary", "description", "operationId", "parameters", "requestBody", "responses",
  "deprecated", "x-error-codes"]

/-- An operation. -/
def Operation.read (depth : Nat) (d : Datum) : Reading Operation := do
  let inner := depth - 1
  let f ← d.readFields depth Operation.fieldNames
  return {
    tags := ← fieldOr f "tags" [] (readList inner readText)
    summary := ← fieldOr f "summary" none (readOptional readText)
    description := ← fieldOr f "description" none (readOptional readText)
    operationId := ← fieldOr f "operationId" none (readOptional readText)
    parameters := ← fieldOr f "parameters" []
      (readList inner (RefOr.read Parameter.read (inner - 1)))
    requestBody := ← fieldOr f "requestBody" none
      (readOptional (RefOr.read RequestBody.read inner))
    responses := Entries.sortedOfList (← fieldOr f "responses" []
      (readEntries inner (RefOr.read Response.read (inner - 1))))
    deprecated := ← fieldOr f "deprecated" false readBool
    errorCodes := ← fieldOr f "x-error-codes" [] (readList inner (ErrorCode.read (inner - 1))) }

/-- A path item. -/
def PathItem.read (depth : Nat) (d : Datum) : Reading PathItem := do
  let inner := depth - 1
  let f ← d.readFields depth ["summary", "parameters", "get", "post", "put", "delete", "patch"]
  let operation (name : String) : Reading (Option Operation) :=
    fieldOr f name none (readOptional (Operation.read inner))
  return {
    summary := ← fieldOr f "summary" none (readOptional readText)
    parameters := ← fieldOr f "parameters" []
      (readList inner (RefOr.read Parameter.read (inner - 1)))
    get := ← operation "get"
    post := ← operation "post"
    put := ← operation "put"
    delete := ← operation "delete"
    patch := ← operation "patch" }

/-- The title and version of a description. -/
def Info.read (depth : Nat) (d : Datum) : Reading Info := do
  let f ← d.readFields depth ["title", "version", "description"]
  return {
    title := ← fieldOr f "title" "" readText
    version := ← fieldOr f "version" "" readText
    description := ← fieldOr f "description" none (readOptional readText) }

/-- A server. -/
def Server.read (depth : Nat) (d : Datum) : Reading Server := do
  let f ← d.readFields depth ["url", "description"]
  return {
    url := ← fieldOr f "url" "" readText
    description := ← fieldOr f "description" none (readOptional readText) }

/-- The declaration of a tag. -/
def Tag.read (depth : Nat) (d : Datum) : Reading Tag := do
  let f ← d.readFields depth ["name", "description"]
  return {
    name := ← fieldOf f "name" readText
    description := ← fieldOr f "description" none (readOptional readText) }

/-- The named components. -/
def Components.read (depth : Nat) (d : Datum) : Reading Components := do
  let inner := depth - 1
  let f ← d.readFields depth ["schemas", "parameters", "requestBodies", "responses"]
  return {
    schemas := Entries.ofList (← fieldOr f "schemas" []
      (readEntries inner (Schema.read (inner - 1))))
    parameters := Entries.ofList (← fieldOr f "parameters" []
      (readEntries inner (RefOr.read Parameter.read (inner - 1))))
    requestBodies := Entries.ofList (← fieldOr f "requestBodies" []
      (readEntries inner (RefOr.read RequestBody.read (inner - 1))))
    responses := Entries.ofList (← fieldOr f "responses" []
      (readEntries inner (RefOr.read Response.read (inner - 1)))) }

namespace Document

/-- Whether a key among the paths is an extension and no path. -/
def isExtension (key : String) : Bool :=
  key.startsWith "x-"

/-- The path items of the entries of a dictionary. Extensions are passed over, and a path
without anything has no operation. -/
def readPathItems (depth : Nat) : List (Datum × Datum) → Reading (List (String × PathItem))
  | [] => return []
  | (key, value) :: rest => do
    let path ← key.readText
    if isExtension path then readPathItems depth rest
    else
      let item := (← value.readOptional (PathItem.read depth)).getD {}
      return (path, item) :: (← readPathItems depth rest)

/-- The paths: a dictionary, or nothing. -/
def readPaths (depth : Nat) (d : Datum) : Reading (List (String × PathItem)) := do
  match ← d.follow with
  | .null => return []
  | .scalar s =>
    match s.settle with
    | some .null => return []
    | _ => refuse
  | .dict origin entries =>
    if depth = 0 || origin = .written true then refuse
    else readPathItems (depth - 1) entries
  | _ => refuse

/-- The names of the fields of a document. -/
def fieldNames : List String :=
  ["openapi", "info", "servers", "paths", "components", "tags", "x-error-codes"]

/-- A document. -/
def read (depth : Nat) (d : Datum) : Reading Document := do
  let inner := depth - 1
  let f ← d.readFields depth fieldNames
  return {
    openapi := ← fieldOr f "openapi" none (readOptional readText)
    info := ← fieldOr f "info" {} (Info.read inner)
    servers := ← fieldOr f "servers" [] (readList inner (Server.read (inner - 1)))
    paths := Entries.sortedOfList (← fieldOr f "paths" [] (readPaths inner))
    components := ← fieldOr f "components" {} (Components.read inner)
    tags := ← fieldOr f "tags" [] (readList inner (Tag.read (inner - 1)))
    errorCodes := ← fieldOr f "x-error-codes" [] (readList inner (ErrorCode.read (inner - 1))) }

end Document

end ServiceGen
