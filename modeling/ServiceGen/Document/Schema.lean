import ServiceGen.Entries
import ServiceGen.Json

/-!
# Schemas

The shapes of values. A schema is either a reference to a named schema, and then nothing
else of it counts, or a shape of its own; `Schema.kind` says which shape.
-/

namespace ServiceGen

/-- The type keyword of a schema: one name, or several. -/
inductive SchemaType
  | single (name : String)
  | multiple (names : List String)
deriving DecidableEq, Inhabited

/-- The first type name that says something: neither empty nor, among several, `null`. -/
def SchemaType.primary? : SchemaType → Option String
  | .single name => if name.isEmpty then none else some name
  | .multiple names => names.find? fun name => name != "null" && !name.isEmpty

/-- The shape of a value. -/
structure Schema where
  /-- The target, if the schema is a reference. -/
  reference : Option String := none
  /-- The type keyword. -/
  type : Option SchemaType := none
  /-- A finer format within the type. -/
  format : Option String := none
  /-- A title. -/
  title : Option String := none
  /-- A description. -/
  description : Option String := none
  /-- The properties of an object, in the order of their declaration. -/
  properties : List (String × Schema) := []
  /-- The shape of the elements of an array. -/
  items : Option Schema := none
  /-- The names of the properties that must be there. -/
  required : List String := []
  /-- Shapes that all hold. -/
  allOf : List Schema := []
  /-- Shapes of which exactly one holds. -/
  oneOf : List Schema := []
  /-- Shapes of which at least one holds. -/
  anyOf : List Schema := []
  /-- A shape that does not hold. -/
  not : Option Schema := none
  /-- The values that are allowed. -/
  enumeration : List Json := []
  /-- The least length of a text. -/
  minLength : Option Nat := none
  /-- The greatest length of a text. -/
  maxLength : Option Nat := none
  /-- The least number. -/
  minimum : Option Binary64 := none
  /-- The greatest number. -/
  maximum : Option Binary64 := none
  /-- A pattern that a text matches. -/
  pattern : Option String := none
  /-- The least number of elements. -/
  minItems : Option Nat := none
  /-- The greatest number of elements. -/
  maxItems : Option Nat := none
deriving Inhabited, BEq

/-- What shape a schema is. -/
inductive SchemaKind
  /-- A reference to a target. -/
  | reference (target : String)
  /-- A composition of other shapes. -/
  | composition
  /-- An object with properties. -/
  | object (properties : List (String × Schema))
  /-- An array whose elements have a shape. -/
  | array (items : Option Schema)
  /-- A value of a primitive type. -/
  | primitive (name : String)
  /-- Anything. -/
  | any

namespace Schema

/-- A reference to a target. -/
def ofReference (target : String) : Schema :=
  { reference := some target }

/-- A shape of which only the type is known. -/
def ofType (name : String) : Schema :=
  { type := some (.single name) }

/-- The name of the type. -/
def primaryType? (s : Schema) : Option String :=
  s.type.bind SchemaType.primary?

/-- Whether the schema is composed of others. -/
def isComposition (s : Schema) : Bool :=
  !s.allOf.isEmpty || !s.oneOf.isEmpty || !s.anyOf.isEmpty

/-- The shape of a schema: a reference first, then a composition, then what its type says,
and without a type what its keywords imply. -/
def kind (s : Schema) : SchemaKind :=
  match s.reference with
  | some target => .reference target
  | none =>
    if s.isComposition then .composition
    else match s.primaryType? with
      | some "object" => .object s.properties
      | some "array" => .array s.items
      | some name => .primitive name
      | none =>
        if !s.properties.isEmpty then .object s.properties
        else if s.items.isSome then .array s.items
        else .any

/-- Whether a named schema deserves a struct of its own. -/
def isModelLike (s : Schema) : Bool :=
  (match s.kind with
    | .object _ => true
    | _ => false) || !s.allOf.isEmpty

end Schema

end ServiceGen
