import ServiceGen.FieldType
import ServiceGen.Resolver
import ServiceGen.Text.Identifier

/-!
# Fields

What the generated code needs to know of a parameter or property: its identifier, its type,
the rules its values are checked by, and a sample value.

The type of a schema names a struct where the schema is a reference to a component that
deserves one; references to other components are looked through. `FieldType.refs` holds the
component that such a type mentions.
-/

namespace ServiceGen

/-- The type of a field, and the components that it mentions. -/
structure TypeUse where
  /-- The type. -/
  type : String
  /-- The names of the components. -/
  refs : List String := []
deriving DecidableEq, Inhabited

/-- Where the value of a field is carried. -/
inductive FieldLocation
  | path
  | query
  | body
deriving DecidableEq, Inhabited

/-- The word for a location. -/
def FieldLocation.label : FieldLocation → String
  | .path => "path"
  | .query => "query"
  | .body => "body"

/-- A field of a generated struct, or a parameter of a generated function. -/
structure Field where
  /-- The name on the wire. -/
  name : String
  /-- The identifier. -/
  ident : String
  /-- The type of the field. -/
  type : String
  /-- The type of a value that is there. -/
  baseType : String
  /-- Whether a value must be there. -/
  required : Bool
  /-- Whether the identifier differs from the name on the wire. -/
  renamed : Bool
  /-- The rules for values. -/
  validation : Option String
  /-- A description on one line. -/
  description : Option String
  /-- Where the value is carried. -/
  location : FieldLocation
  /-- A sample value. -/
  sample : String
  /-- The components that the type mentions. -/
  refs : List String
deriving DecidableEq, Inhabited

/-- A field with another type, which is optional unless a value must be there. -/
def Field.withBaseType (f : Field) (type : String) : Field :=
  { f with
    type := if f.required then type else FieldType.optional type
    baseType := type }

/-- A text on one line, unless it is blank. -/
def lineOf? (text : Option String) : Option String :=
  match text.map fun t => String.ofList (Text.singleLine t.toList) with
  | some line => if line.isEmpty then none else some line
  | none => none

/-! ### Types -/

namespace Resolver

/-- The type of a schema, with room for the given steps. -/
def typeWithin (r : Resolver) : Nat → Schema → Except Failure TypeUse
  | 0, _ => .ok ⟨FieldType.any, []⟩
  | room + 1, schema =>
    match schema.kind with
    | .reference reference => do
      match ← r.resolveWithin (room + 1) schema with
      | none => return ⟨FieldType.any, []⟩
      | some target =>
        if target.isModelLike then
          let name := Reference.tailName reference
          return ⟨pascalCase name, [name]⟩
        else r.typeWithin room target
    | .array (some items) => do
      let inner ← r.typeWithin room items
      return ⟨FieldType.list inner.type, inner.refs⟩
    | .array none => .ok ⟨FieldType.list FieldType.any, []⟩
    | .primitive name => .ok ⟨FieldType.ofPrimitive name schema.format, []⟩
    | _ => .ok ⟨FieldType.any, []⟩

/-- The type of a schema at a depth. -/
def typeOf (r : Resolver) (schema : Schema) (depth : Nat) : Except Failure TypeUse :=
  r.typeWithin (r.room depth) schema

end Resolver

/-! ### Rules -/

namespace Rules

/-- A pattern with this in it describes a telephone number of eleven digits. -/
def nineDigits : String := "\\d\x7b9\x7d"

/-- A bound of a whole number: its integer part within 64 bits. -/
def wholeBound (x : Binary64) : String :=
  toString (x.clampToInt (-(Nat.pow 2 63)) (Nat.pow 2 63 - 1))

/-- A bound of a floating-point number. -/
def floatBound (x : Binary64) : String :=
  String.ofList (Decimal.tenths x)

/-- A rule with the bounds that are there. -/
def bounded (rule : String) (bound : Binary64 → String) (least greatest : Option Binary64) :
    List String :=
  let part (key : String) (x : Option Binary64) : List String :=
    match x with
    | some x => [key ++ " = " ++ bound x]
    | none => []
  match part "min" least ++ part "max" greatest with
  | [] => []
  | parts => [rule ++ "(" ++ ", ".intercalate parts ++ ")"]

/-- The rule for a length. -/
def length (least greatest : Option Nat) : List String :=
  bounded "length" wholeBound (least.map Binary64.ofNat) (greatest.map Binary64.ofNat)

/-- The rules for a text. A required text is not empty. -/
def ofText (s : Schema) (required : Bool) : List String :=
  let size :=
    if s.pattern.any fun p => Text.contains nineDigits.toList p.toList then
      ["length(equal = 11)"]
    else length (s.minLength.or (if required then some 1 else none)) s.maxLength
  let format := match s.format with
    | some "email" => ["email"]
    | some "uri" => ["url"]
    | some "url" => ["url"]
    | _ => []
  size ++ format

/-- The rules for values of a schema that have the given type. -/
def ofType (s : Schema) (type : String) (required : Bool) : List String :=
  match type with
  | "String" => ofText s required
  | "i32" => bounded "range" wholeBound s.minimum s.maximum
  | "i64" => bounded "range" wholeBound s.minimum s.maximum
  | "f32" => bounded "range" floatBound s.minimum s.maximum
  | "f64" => bounded "range" floatBound s.minimum s.maximum
  | other => if other.startsWith "Vec<" then length s.minItems s.maxItems else []

/-- The rules as one text, if there are any. -/
def text? (s : Schema) (type : String) (required : Bool) : Option String :=
  match ofType s type required with
  | [] => none
  | rules => some (", ".intercalate rules)

end Rules

/-! ### Fields of schemas -/

namespace Resolver

/-- The field of a named parameter or property. A field without a schema is a text; a
description of its own goes before that of the schema. -/
def fieldOf (r : Resolver) (name : String) (schema : Option Schema) (required : Bool)
    (location : FieldLocation) (description : Option String) (depth : Nat) :
    Except Failure Field := do
  let schema := schema.getD (.ofType "string")
  let use ← r.typeOf schema (depth + 1)
  let target := (← r.resolve schema (depth + 1)).getD schema
  let ident := fieldIdentifier name
  let field : Field := {
    name, ident, required, location
    type := ""
    baseType := ""
    renamed := plainIdentifier ident != name
    validation := Rules.text? target use.type required
    description := lineOf? ((description.or schema.description).or target.description)
    sample := FieldType.sampleValue use.type
    refs := use.refs }
  return field.withBaseType use.type

/-- The fields of the properties of an object. -/
def objectFields (r : Resolver) (schema : Schema) (location : FieldLocation) (depth : Nat) :
    Except Failure (List Field) :=
  schema.properties.mapM fun (name, property) =>
    r.fieldOf name (some property) (schema.required.contains name) location none (depth + 1)

end Resolver

end ServiceGen
