import ServiceGen.Analysis.Field

/-!
# Response Shapes

What an operation answers with, judged by the JSON schema of its `200` response:

* an object with a `data` property at the top is an envelope around its payload;
* an object with `list` and `total` is a page of a list;
* an array is a list of its elements;
* any other object is a record.

`allOf` is merged, and of the branches of `oneOf` and `anyOf` the first counts that has a
shape. A reference that is met again on the way, in the same role, has none.
-/

namespace ServiceGen

/-- What an operation answers with. -/
structure ResponseShape where
  /-- The name of the record. -/
  typeName : String
  /-- A description on one line. -/
  description : Option String
  /-- The fields of the record. -/
  fields : List Field
  /-- Whether the answer is a list of records. -/
  isList : Bool
  /-- Whether the answer is a page of a list. -/
  paginated : Bool
  /-- Whether the record is a named component. -/
  fromComponent : Bool
deriving DecidableEq, Inhabited

/-- The role of a schema in a response. -/
inductive Role
  /-- The whole response. -/
  | top
  /-- The payload of an envelope. -/
  | payload
  /-- The elements of a list. -/
  | element
deriving DecidableEq

/-- The JSON schema among the contents of a body: that of `application/json` first, then of
any other media type with `json` in its name, then of `*/*`. -/
def jsonSchema? (content : Entries MediaType) : Option Schema :=
  let first (p : String → Bool) : Option Schema :=
    content.findSome? fun (type, media) =>
      if p (String.ofList (Text.asciiLower type.toList)) then media.schema else none
  ((first (· == "application/json")).orElse fun _ =>
    first fun type => Text.contains "json".toList type.toList).orElse fun _ => first (· == "*/*")

namespace Resolver

/-- The record that an object describes. -/
def record (r : Resolver) (typePrefix : String) (schema : Schema) (refName : Option String)
    (role : Role) (depth : Nat) : Except Failure (Option ResponseShape) := do
  let ending := if role = .element then "Item" else "Data"
  let fields ← r.objectFields schema .body (depth + 1)
  return some {
    typeName := refName.getD (typePrefix ++ ending)
    description := lineOf? schema.description
    fields, isList := false, paginated := false, fromComponent := refName.isSome }

/-- The elements of the array that a schema describes. -/
def elementsOf? (r : Resolver) (schema : Schema) (depth : Nat) :
    Except Failure (Option Schema) := do
  match ← r.resolve schema depth with
  | none => return none
  | some target =>
    match target.kind with
    | .array items => return items
    | _ => return none

/-- The first of several results that is there. -/
def firstShape (results : List (Unit → Except Failure (Option ResponseShape))) :
    Except Failure (Option ResponseShape) :=
  match results with
  | [] => .ok none
  | result :: rest => do
    match ← result () with
    | some shape => return some shape
    | none => firstShape rest

/-- The shape of a schema in a role, with room for the given steps. `refName` is the struct
name of the reference that led to it, and `active` are the references followed so far. -/
def shapeWithin (r : Resolver) (typePrefix : String) : Nat → Option String → Schema → Role →
    List (String × Role) → Except Failure (Option ResponseShape)
  | 0, _, _, _, _ => .ok none
  | room + 1, refName, schema, role, active =>
    let depth := r.maxDepth - room
    let go := r.shapeWithin typePrefix room
    match schema.reference with
    | some reference => do
      if active.contains (reference, role) then return none
      match ← r.resolveWithin (room + 1) schema with
      | none => return none
      | some target =>
        go (some (pascalCase (Reference.tailName reference))) target role
          ((reference, role) :: active)
    | none =>
      if !schema.allOf.isEmpty then do
        match ← r.concreteWithin room schema with
        | some merged => go refName merged role active
        | none => return none
      else if !schema.oneOf.isEmpty || !schema.anyOf.isEmpty then
        firstShape ((schema.oneOf ++ schema.anyOf).map fun branch _ =>
          go none branch role active)
      else match schema.kind with
        | .object properties => do
          if role = .top then
            if let some data := properties.lookup "data" then
              return ← go none data .payload active
          if role ≠ .element then
            if let some list := properties.lookup "list" then
              if (properties.lookup "total").isSome then
                if let some items ← r.elementsOf? list (depth + 1) then
                  return (← go none items .element active).map fun shape =>
                    { shape with isList := true, paginated := true }
          if properties.isEmpty && refName.isNone then return none
          r.record typePrefix schema refName role depth
        | .array (some items) =>
          if role = .element then .ok none
          else do
            return (← go none items .element active).map fun shape =>
              { shape with isList := true }
        | _ => .ok none

/-- What an operation answers with. -/
def responseShape (r : Resolver) (op : Operation) (typePrefix : String) :
    Except Failure (Option ResponseShape) := do
  match op.responses.get? "200" with
  | none => return none
  | some entry =>
    match ← r.response entry 0 with
    | none => return none
    | some response =>
      match jsonSchema? response.content with
      | none => return none
      | some schema =>
        return (← r.shapeWithin typePrefix (r.room 1) none schema .top []).map fun shape =>
          { shape with description := shape.description.or (lineOf? response.description) }

end Resolver

end ServiceGen
