import ServiceGen.Document
import ServiceGen.ModuleName
import ServiceGen.Reference

/-!
# Modules

A module is a group of operations that are generated together. An operation belongs to a
module if one of its tags, or the module name of one of them, or else the module name of its
path is the name of the module, up to the case of ASCII letters.
-/

namespace ServiceGen

/-- An operation of a module. The parameters of its path item are among its own. -/
structure ModuleOperation where
  /-- The method, in upper case. -/
  method : String
  /-- The path. -/
  path : String
  /-- The operation. -/
  operation : Operation
deriving Inhabited, BEq

/-- A group of operations. -/
structure ApiModule where
  /-- The name that was asked for. -/
  name : String
  /-- The operations, in the order of the document. -/
  operations : List ModuleOperation
  /-- The components of the document. -/
  components : Components
  /-- The error codes of the document that apply to the module. -/
  errorCodes : List ErrorCode
deriving Inhabited, BEq

namespace Document

/-- The module that an operation is generated in: that of its first tag with a module name,
or else that of its path. -/
def primaryModule? (r : Route) : Option String :=
  match (r.operation.tags.findSome? ModuleName.ofTag?).or (PathTemplate.moduleName? r.path) with
  | some name => if isModuleSafe name then some name else none
  | none => none

/-- The modules that the operations of a document are generated in, ascending. -/
def primaryModules (d : Document) : List String :=
  sortedNames (d.routes.filterMap primaryModule?)

/-- All names that a document has for modules, ascending: those of its paths, of the tags of
its operations and of its declared tags. -/
def moduleNames (d : Document) : List String :=
  let ofPaths := (d.paths.names.filterMap PathTemplate.moduleName?).filter isModuleSafe
  let ofOperations := d.routes.flatMap fun r => r.operation.tags.filterMap ModuleName.ofTag?
  let ofTags := d.tags.filterMap fun t => ModuleName.ofTag? t.name
  sortedNames (ofPaths ++ ofOperations ++ ofTags)

end Document

namespace ApiModule

/-- Whether an operation belongs to the module of a name. -/
def hasOperation (name : String) (op : Operation) (path : String) : Bool :=
  let wanted := ModuleName.trimmed name
  (op.tags.any fun tag =>
    ModuleName.same (ModuleName.trimmed tag) wanted
      || (ModuleName.ofTag? tag).any (ModuleName.same · wanted))
    || (PathTemplate.moduleName? path).any (ModuleName.same · wanted)

/-- The name and location of a parameter, looked up one reference deep. -/
def parameterKey? (d : Document) : RefOr Parameter → Option (String × ParameterLocation)
  | .item p => some (p.name, p.location)
  | .reference target => do
    let name ← Reference.componentName? .parameters target
    let p ← (← d.components.parameters.get? name).item?
    return (p.name, p.location)

/-- An operation with inherited parameters before its own. One of its own replaces an
inherited parameter of the same name and location. -/
def inheritParameters (d : Document) (inherited : List (RefOr Parameter)) (op : Operation) :
    Operation :=
  let own := op.parameters.filterMap (parameterKey? d)
  let kept := inherited.filter fun p => match parameterKey? d p with
    | some key => !own.contains key
    | none => true
  { op with parameters := kept ++ op.parameters }

/-- Whether an error code applies to the module of a name. -/
def hasErrorCode (name : String) (e : ErrorCode) : Bool :=
  match e.module.map ModuleName.trimmed with
  | none => true
  | some owner => owner.isEmpty || ModuleName.same owner (ModuleName.trimmed name)

/-- The module of a document with a given name. -/
def ofDocument (d : Document) (name : String) : ApiModule where
  name := name
  operations := (d.routes.filter fun r => hasOperation name r.operation r.path).map fun r =>
    ⟨r.method, r.path, inheritParameters d r.item.parameters r.operation⟩
  components := d.components
  errorCodes := d.errorCodes.filter (hasErrorCode name)

/-- Whether the module has no operations. -/
def isEmpty (m : ApiModule) : Bool :=
  m.operations.isEmpty

end ApiModule

end ServiceGen
