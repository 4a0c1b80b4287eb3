/-!
# Types of Generated Fields

The Rust types that fields of the generated structs have, and a sample value of each for
the generated tests.
-/

namespace ServiceGen.FieldType

/-- The type of a value of no particular shape. -/
def any : String :=
  "serde_json::Value"

/-- The type of a primitive schema type with its format. -/
def ofPrimitive (name : String) (format : Option String) : String :=
  match name, format with
  | "integer", some "int64" => "i64"
  | "integer", _ => "i32"
  | "number", some "float" => "f32"
  | "number", _ => "f64"
  | "boolean", _ => "bool"
  | "string", _ => "String"
  | _, _ => any

/-- The type of a list. -/
def list (item : String) : String :=
  "Vec<" ++ item ++ ">"

/-- The type of a value that may be absent. -/
def optional (type : String) : String :=
  "Option<" ++ type ++ ">"

/-- The type of a value behind a pointer. -/
def boxed (type : String) : String :=
  "Box<" ++ type ++ ">"

/-- An expression of the type. -/
def sampleValue : String → String
  | "i32" => "1"
  | "i64" => "1"
  | "f32" => "1.0"
  | "f64" => "1.0"
  | "bool" => "true"
  | "String" => "\"sample\".to_string()"
  | _ => "Default::default()"

/-- A path segment that reads as a value of the type. -/
def sampleSegment : String → String
  | "i32" => "1"
  | "i64" => "1"
  | "f32" => "1.0"
  | "f64" => "1.0"
  | "bool" => "true"
  | _ => "sample"

end ServiceGen.FieldType
