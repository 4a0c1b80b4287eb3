import ServiceGen.Document.Schema

/-!
# Documents

An API description: its paths with their operations, and the components that it names.
Paths and responses are kept in ascending order, components and media types in the order of
their declaration.
-/

namespace ServiceGen

/-- An item, or a reference to a named one. -/
inductive RefOr (α : Type)
  | reference (target : String)
  | item (value : α)
deriving Inhabited, BEq, DecidableEq

/-- The item, if it is given in place. -/
def RefOr.item? {α : Type} : RefOr α → Option α
  | .reference _ => none
  | .item value => some value

/-- Where the value of a parameter is carried. -/
inductive ParameterLocation
  | path
  | query
  | header
  | cookie
deriving DecidableEq, Inhabited

/-- A parameter of an operation. -/
structure Parameter where
  /-- The name on the wire. -/
  name : String
  /-- Where the value is carried. -/
  location : ParameterLocation := .query
  /-- Whether a value must be given. -/
  required : Bool := false
  /-- A description. -/
  description : Option String := none
  /-- The shape of the value. -/
  schema : Option Schema := none
deriving Inhabited, BEq

/-- What a body holds in one media type. -/
structure MediaType where
  /-- The shape of the content. -/
  schema : Option Schema := none
deriving Inhabited, BEq

/-- The body of a request. -/
structure RequestBody where
  /-- A description. -/
  description : Option String := none
  /-- The content by media type. -/
  content : Entries MediaType := []
  /-- Whether a body must be sent. -/
  required : Bool := false
deriving Inhabited, BEq

/-- A response. -/
structure Response where
  /-- A description. -/
  description : Option String := none
  /-- The content by media type. -/
  content : Entries MediaType := []
deriving Inhabited, BEq

/-- The declaration of an error code. -/
structure ErrorCode where
  /-- The number of the code. -/
  code : Int
  /-- The symbolic name. -/
  name : String
  /-- A message. -/
  message : String := ""
  /-- The HTTP status that goes with the code. -/
  status : Option Nat := none
  /-- The module that the code belongs to. -/
  module : Option String := none
deriving Inhabited, DecidableEq

/-- An operation. -/
structure Operation where
  /-- The tags. -/
  tags : List String := []
  /-- A short summary. -/
  summary : Option String := none
  /-- A description. -/
  description : Option String := none
  /-- The identifier. -/
  operationId : Option String := none
  /-- The parameters. -/
  parameters : List (RefOr Parameter) := []
  /-- The body of the request. -/
  requestBody : Option (RefOr RequestBody) := none
  /-- The responses by status. -/
  responses : Entries (RefOr Response) := []
  /-- Whether the operation is deprecated. -/
  deprecated : Bool := false
  /-- The error codes. -/
  errorCodes : List ErrorCode := []
deriving Inhabited, BEq

/-- The operations of a path. -/
structure PathItem where
  /-- A short summary. -/
  summary : Option String := none
  /-- Parameters of all the operations. -/
  parameters : List (RefOr Parameter) := []
  /-- The GET operation. -/
  get : Option Operation := none
  /-- The POST operation. -/
  post : Option Operation := none
  /-- The PUT operation. -/
  put : Option Operation := none
  /-- The DELETE operation. -/
  delete : Option Operation := none
  /-- The PATCH operation. -/
  patch : Option Operation := none
deriving Inhabited, BEq

/-- The title and version of a description. -/
structure Info where
  /-- The title. -/
  title : String := ""
  /-- The version. -/
  version : String := ""
  /-- A description. -/
  description : Option String := none
deriving Inhabited, DecidableEq

/-- A server. -/
structure Server where
  /-- Its address. -/
  url : String := ""
  /-- A description. -/
  description : Option String := none
deriving Inhabited, DecidableEq

/-- The declaration of a tag. -/
structure Tag where
  /-- Its name. -/
  name : String
  /-- A description. -/
  description : Option String := none
deriving Inhabited, DecidableEq

/-- The named components. -/
structure Components where
  /-- Schemas. -/
  schemas : Entries Schema := []
  /-- Parameters. -/
  parameters : Entries (RefOr Parameter) := []
  /-- Request bodies. -/
  requestBodies : Entries (RefOr RequestBody) := []
  /-- Responses. -/
  responses : Entries (RefOr Response) := []
deriving Inhabited, BEq

/-- An API description. -/
structure Document where
  /-- The version of the description format. -/
  openapi : Option String := none
  /-- The title and version. -/
  info : Info := {}
  /-- The servers. -/
  servers : List Server := []
  /-- The path items by path. -/
  paths : Entries PathItem := []
  /-- The named components. -/
  components : Components := {}
  /-- The declared tags. -/
  tags : List Tag := []
  /-- The error codes of the whole description. -/
  errorCodes : List ErrorCode := []
deriving Inhabited, BEq

namespace PathItem

/-- The operation of a method, given in upper case. -/
def operation? (item : PathItem) (method : String) : Option Operation :=
  match method with
  | "GET" => item.get
  | "POST" => item.post
  | "PUT" => item.put
  | "DELETE" => item.delete
  | "PATCH" => item.patch
  | _ => none

/-- The methods that a path may have operations for, in the order in which they are visited. -/
def methods : List String :=
  ["GET", "POST", "PUT", "DELETE", "PATCH"]

/-- The operations with their methods. -/
def operations (item : PathItem) : List (String × Operation) :=
  methods.filterMap fun method => (item.operation? method).map (method, ·)

/-- Whether there is no operation. -/
def isEmpty (item : PathItem) : Bool :=
  item.operations.isEmpty

end PathItem

/-- An operation with where it stands in a document. -/
structure Route where
  /-- The path. -/
  path : String
  /-- The method, in upper case. -/
  method : String
  /-- The path item. -/
  item : PathItem
  /-- The operation itself. -/
  operation : Operation

/-- All operations: by path in ascending order, and by method in the order of the methods. -/
def Document.routes (d : Document) : List Route :=
  d.paths.flatMap fun (path, item) =>
    item.operations.map fun (method, operation) => ⟨path, method, item, operation⟩

end ServiceGen
