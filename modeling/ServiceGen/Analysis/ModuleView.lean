import ServiceGen.Analysis.Model
import ServiceGen.Document.Dump
import ServiceGen.Text.Plural

/-!
# Module Views

Everything that the templates of a module see, and its form as a JSON value. The error codes
of a module are those that the document declares for it, then those of its operations, each
name once, ascending by code; a module without any gets three common ones.
-/

namespace ServiceGen

/-- An error code as the templates see it. -/
structure ErrorVariant where
  /-- The name of the variant. -/
  name : String
  /-- The number of the code. -/
  code : Int
  /-- The message. -/
  message : String
  /-- The HTTP status. -/
  status : Nat
deriving DecidableEq, Inhabited

namespace ErrorVariant

/-- The error codes of a module without any. -/
def common : List ErrorVariant := [
  ⟨"InvalidParams", 40001, "invalid parameters", 400⟩,
  ⟨"NotFound", 40401, "resource not found", 404⟩,
  ⟨"Internal", 50001, "internal server error", 500⟩]

/-- The HTTP status that the first three of five digits of a code say, or the status of an
internal error. -/
def statusOf (code : Int) : Nat :=
  let first := Int.tdiv code 100
  if 100 ≤ first ∧ first < 600 then first.toNat else 500

/-- The variant of a declaration under a name. -/
def ofDeclaration (name : String) (e : ErrorCode) : ErrorVariant where
  name := name
  code := e.code
  message :=
    if Text.isBlankText e.message.toList then e.name
    else String.ofList (Text.singleLine e.message.toList)
  status := e.status.getD (statusOf e.code)

/-- The variants of declarations, of which the first counts for each name. A declaration
whose name has no words has no variant. -/
def distinct (seen : List String) : List ErrorCode → List ErrorVariant
  | [] => []
  | e :: rest =>
    let name := pascalCase e.name
    if name.isEmpty || seen.contains name then distinct seen rest
    else ofDeclaration name e :: distinct (name :: seen) rest

/-- The error codes of a module, from its own declarations and those of its operations. -/
def ofModule (own : List ErrorCode) (endpoints : List Endpoint) : List ErrorVariant :=
  let variants := distinct [] (own ++ endpoints.flatMap (·.errorCodes))
  let chosen := if variants.isEmpty then common else variants
  chosen.mergeSort fun a b => decide (a.code ≤ b.code)

end ErrorVariant

/-- What the templates of a module see. -/
structure ModuleView where
  /-- The name of the module in snake case. -/
  module : String
  /-- The name of the crate. -/
  package : String
  /-- The title of the document. -/
  title : String
  /-- The version of the document. -/
  version : String
  /-- The operations. -/
  endpoints : List Endpoint
  /-- The structs beside the request structs, ascending by name. -/
  models : List Model
  /-- The error codes, ascending. -/
  errors : List ErrorVariant
deriving Inhabited

namespace ModuleView

/-- The name of the module in Pascal case. -/
def pascal (v : ModuleView) : String :=
  pascalCase v.module

/-- The type of the business logic. -/
def logicType (v : ModuleView) : String :=
  v.pascal ++ "Logic"

/-- The type of the handlers. -/
def handlerType (v : ModuleView) : String :=
  v.pascal ++ "Handler"

/-- The constant that lists the error codes. -/
def errorTable (v : ModuleView) : String :=
  String.ofList (Text.Letter.upperText v.module.toList) ++ "_ERROR_CODES"

/-- Whether there is any request struct. -/
def usesValidation (v : ModuleView) : Bool :=
  v.endpoints.any (·.hasRequest)

/-- The names of the request structs. -/
def requestTypes (endpoints : List Endpoint) : List String :=
  (endpoints.filter (·.hasRequest)).map (·.requestType)

/-- The name of a crate as an identifier. -/
def crateIdent (package : String) : String :=
  String.ofList (package.toList.map fun c => if c == '-' then '_' else c)

/-- The view of a module. -/
def build (m : ApiModule) (package : String) (r : Resolver) : Except Failure ModuleView := do
  let endpoints ← r.endpoints m
  let models ← r.models endpoints
  let taken := requestTypes endpoints
  return {
    module := snakeCase m.name
    package := crateIdent package
    title := r.document.info.title
    version := r.document.info.version
    endpoints
    models := models.filter fun model => !taken.contains model.name
    errors := ErrorVariant.ofModule m.errorCodes endpoints }

end ModuleView

/-! ### Views as JSON values -/

/-- A field. -/
def Field.toJson (f : Field) : Json :=
  .object [
    ("name", .text f.name),
    ("field_name", .text f.ident),
    ("rust_type", .text f.type),
    ("base_type", .text f.baseType),
    ("required", .bool f.required),
    ("renamed", .bool f.renamed),
    ("validation", .ofText? f.validation),
    ("description", .ofText? f.description),
    ("location", .text f.location.label),
    ("sample", .text f.sample)]

/-- The shape of a response. -/
def ResponseShape.toJson (r : ResponseShape) : Json :=
  .object [
    ("type_name", .text r.typeName),
    ("description", .ofText? r.description),
    ("fields", .ofList Field.toJson r.fields),
    ("is_list", .bool r.isList),
    ("paginated", .bool r.paginated),
    ("from_component", .bool r.fromComponent)]

/-- An operation. -/
def Endpoint.toJson (e : Endpoint) : Json :=
  .object [
    ("method", .text e.method),
    ("verb", .text e.verb),
    ("path", .text e.path),
    ("kind", .text e.kind.label),
    ("method_name", .text e.methodName),
    ("handler_name", .text e.handlerName),
    ("test_name", .text e.testName),
    ("type_prefix", .text e.typePrefix),
    ("request_type", .text e.requestType),
    ("response_type", .text e.responseType),
    ("doc", .text e.doc),
    ("path_params", .ofList Field.toJson e.pathParams),
    ("query_params", .ofList Field.toJson e.queryParams),
    ("body_fields", .ofList Field.toJson e.bodyFields),
    ("request_fields", .ofList Field.toJson e.requestFields),
    ("has_path_params", .bool e.hasPathParams),
    ("has_body_or_query", .bool e.hasRequest),
    ("binds_json", .bool e.bindsJson),
    ("response", .ofOption ResponseShape.toJson e.response),
    ("error_codes", .ofList ErrorCode.toJson e.errorCodes),
    ("test_uri", .text e.testUri),
    ("deprecated", .bool e.deprecated)]

/-- A struct. -/
def Model.toJson (m : Model) : Json :=
  .object [
    ("name", .text m.name),
    ("description", .ofText? m.description),
    ("fields", .ofList Field.toJson m.fields)]

/-- An error code. -/
def ErrorVariant.toJson (v : ErrorVariant) : Json :=
  .object [
    ("name", .text v.name),
    ("code", .int v.code),
    ("message", .text v.message),
    ("status", .int v.status)]

/-- The view of a module. -/
def ModuleView.toJson (v : ModuleView) : Json :=
  .object [
    ("module", .text v.module),
    ("pascal", .text v.pascal),
    ("camel", .text (camelCase v.module)),
    ("plural", .text (pluralOf v.module)),
    ("package", .text v.package),
    ("title", .text v.title),
    ("version", .text v.version),
    ("logic_type", .text v.logicType),
    ("handler_type", .text v.handlerType),
    ("error_type", .text (v.pascal ++ "Error")),
    ("error_table", .text v.errorTable),
    ("operations", .ofList Endpoint.toJson v.endpoints),
    ("models", .ofList Model.toJson v.models),
    ("error_codes", .ofList ErrorVariant.toJson v.errors),
    ("uses_validation", .bool v.usesValidation)]

end ServiceGen
