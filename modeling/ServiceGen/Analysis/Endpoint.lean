import ServiceGen.Analysis.ResponseShape
import ServiceGen.ApiModule
import ServiceGen.OperationKind

/-!
# Endpoints

What the generated code needs to know of an operation: its names, its parameters, the fields
of its request and the shape of its response.

The method name of an operation is its identifier if it has one, the name of its role, or
else made of its HTTP method and the end of its path. Within a module `uniqueName` keeps the
method names apart.
-/

namespace ServiceGen

/-- An operation, analyzed. -/
structure Endpoint where
  /-- The HTTP method, in upper case. -/
  method : String
  /-- The path template. -/
  path : String
  /-- The method name. -/
  methodName : String
  /-- A line of documentation. -/
  doc : String
  /-- The parameters of the path, one for each placeholder. -/
  pathParams : List Field
  /-- The parameters of the query. -/
  queryParams : List Field
  /-- The properties of the request body. -/
  bodyFields : List Field
  /-- The shape of the response. -/
  response : Option ResponseShape
  /-- The error codes. -/
  errorCodes : List ErrorCode
  /-- Whether the operation is deprecated. -/
  deprecated : Bool
deriving Inhabited

namespace Endpoint

/-- The role of the operation. -/
def kind (e : Endpoint) : OperationKind :=
  .classify e.method (PathTemplate.hasPlaceholder e.path)

/-- The HTTP method in lower case. -/
def verb (e : Endpoint) : String :=
  String.ofList (Text.asciiLower e.method.toList)

/-- The method name without the mark of a raw identifier, for the names of tests. -/
def testName (e : Endpoint) : String :=
  plainIdentifier e.methodName

/-- The name of the handler. -/
def handlerName (e : Endpoint) : String :=
  e.testName ++ "_handler"

/-- What the names of the types of an operation with the given method name begin with. -/
def typePrefixOf (methodName : String) : String :=
  pascalCase (plainIdentifier methodName)

/-- What the names of the operation's types begin with. -/
def typePrefix (e : Endpoint) : String :=
  typePrefixOf e.methodName

/-- The name of the request struct. -/
def requestType (e : Endpoint) : String :=
  e.typePrefix ++ "Request"

/-- The type of the answer. -/
def responseType (e : Endpoint) : String :=
  match e.response with
  | none => FieldType.any
  | some r =>
    if r.paginated then e.typePrefix ++ "Response"
    else if r.isList then FieldType.list r.typeName
    else r.typeName

/-- The fields of the request struct: the parameters of the query, then the properties of
the body, each identifier once. -/
def requestFields (e : Endpoint) : List Field :=
  (e.queryParams ++ e.bodyFields).foldl (fun kept f =>
    if kept.any (·.ident == f.ident) then kept else kept ++ [f]) []

/-- Whether the path has parameters. -/
def hasPathParams (e : Endpoint) : Bool :=
  !e.pathParams.isEmpty

/-- Whether there is a request struct. -/
def hasRequest (e : Endpoint) : Bool :=
  !e.requestFields.isEmpty

/-- Whether the request struct is read from a JSON body, and not from the query. -/
def bindsJson (e : Endpoint) : Bool :=
  e.hasRequest && ["POST", "PUT", "PATCH"].contains e.method

/-- The path with a sample value for each parameter. -/
def testUri (e : Endpoint) : String :=
  PathTemplate.fill e.path fun name =>
    match e.pathParams.find? (·.name == name) with
    | some p => FieldType.sampleSegment p.baseType
    | none => FieldType.sampleSegment "String"

/-- Identifiers that the generated functions use beside those of path parameters. -/
def usedIdents : List String :=
  ["ctx", "http", "logic", "path", "req"]

/-- A path parameter whose identifier is none that the generated functions use. -/
def apart (f : Field) : Field :=
  if usedIdents.contains f.ident then { f with ident := f.ident ++ "_param", renamed := true }
  else f

end Endpoint

/-! ### Method names -/

/-- The method name of an operation by itself. -/
def baseMethodName (method path : String) (op : Operation) : String :=
  match op.operationId.filter fun id => !Text.isBlankText id.toList with
  | some id => fieldIdentifier id
  | none =>
    match (OperationKind.classify method (PathTemplate.hasPlaceholder path)).defaultMethodName? with
    | some name => name
    | none =>
      let segments := PathTemplate.staticSegments path
      let lower (s : String) : String := String.ofList (Text.Letter.lowerText s.toList)
      let moduleName := PathTemplate.moduleName? path
      match segments.findIdx? fun s => some (lower s) == moduleName with
      | some i => methodNameOf method (segments.drop (i + 1))
      | none => methodNameOf method segments

/-- A method name that is not in use yet: the base name, the base name with the end of the
path, or the base name with the first free number from two on. -/
def uniqueName (base path : String) (used : List String) : String :=
  let plain := plainIdentifier base
  let numbered : String :=
    let candidates := (List.range (used.length + 1)).map fun n => plain ++ "_" ++ toString (n + 2)
    (candidates.find? (!used.contains ·)).getD base
  if !used.contains base then base
  else match (PathTemplate.staticSegments path).getLast? with
    | some last =>
      let candidate := fieldIdentifier (plain ++ "_" ++ last)
      if !used.contains candidate then candidate else numbered
    | none => numbered

/-! ### Analysis -/

namespace Resolver

/-- The fields of the parameters that are carried in the path and in the query. -/
def parameterFields (r : Resolver) :
    List (RefOr Parameter) → Except Failure (List Field × List Field)
  | [] => .ok ([], [])
  | entry :: rest => do
    match ← r.parameter entry 0 with
    | none => r.parameterFields rest
    | some p =>
      match p.location with
      | .path =>
        let field ← r.fieldOf p.name p.schema true .path p.description 1
        let (inPath, inQuery) ← r.parameterFields rest
        return (field :: inPath, inQuery)
      | .query =>
        let field ← r.fieldOf p.name p.schema p.required .query p.description 1
        let (inPath, inQuery) ← r.parameterFields rest
        return (inPath, field :: inQuery)
      | _ => r.parameterFields rest

/-- One field for each placeholder of a path, in order: the declared one, or a text. -/
def pathFields (r : Resolver) (path : String) (declared : List Field) :
    Except Failure (List Field) := do
  let fields ← (PathTemplate.placeholders path).mapM fun name =>
    match declared.find? (·.name == name) with
    | some field => .ok field
    | none => r.fieldOf name none true .path none 1
  return fields.map Endpoint.apart

/-- The fields of the properties of a request body. -/
def bodyFields (r : Resolver) (body : Option (RefOr RequestBody)) :
    Except Failure (List Field) := do
  match body with
  | none => return []
  | some entry =>
    match ← r.requestBody entry 0 with
    | none => return []
    | some body =>
      match (jsonSchema? body.content).or (body.content.findSome? fun (_, m) => m.schema) with
      | none => return []
      | some schema =>
        match ← r.concrete schema 1 with
        | none => return []
        | some object => r.objectFields object .body 2

/-- The line of documentation of an operation. -/
def docOf (method path : String) (op : Operation) : String :=
  (lineOf? (op.summary.or op.description)).getD (method ++ " " ++ path)

/-- An operation, analyzed under a method name. -/
def endpointNamed (r : Resolver) (method path : String) (op : Operation) (methodName : String) :
    Except Failure Endpoint := do
  let method := String.ofList (Text.asciiUpper method.toList)
  let (inPath, queryParams) ← r.parameterFields op.parameters
  let pathParams ← r.pathFields path inPath
  let bodyFields ← r.bodyFields op.requestBody
  let response ← r.responseShape op (Endpoint.typePrefixOf methodName)
  return {
    method, path, methodName, doc := docOf method path op, pathParams, queryParams, bodyFields
    response, errorCodes := op.errorCodes, deprecated := op.deprecated }

/-- An operation, analyzed under its own method name. -/
def endpoint (r : Resolver) (method path : String) (op : Operation) : Except Failure Endpoint :=
  r.endpointNamed method path op (baseMethodName method path op)

/-- Operations, analyzed one after the other under names that are not in use yet. -/
def endpointsFrom (r : Resolver) (used : List String) :
    List ModuleOperation → Except Failure (List Endpoint)
  | [] => .ok []
  | entry :: rest => do
    let base := baseMethodName entry.method entry.path entry.operation
    let name := uniqueName base entry.path used
    let endpoint ← r.endpointNamed entry.method entry.path entry.operation name
    return endpoint :: (← r.endpointsFrom (name :: used) rest)

/-- The operations of a module, analyzed. -/
def endpoints (r : Resolver) (m : ApiModule) : Except Failure (List Endpoint) :=
  r.endpointsFrom [] m.operations

end Resolver

end ServiceGen
