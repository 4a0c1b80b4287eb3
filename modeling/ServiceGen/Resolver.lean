import ServiceGen.Document
import ServiceGen.Failure
import ServiceGen.Reference

/-!
# Following References

A resolver follows references into the components of a document and merges the branches of
`allOf` compositions.

A walk has *room* for a number of steps, one for each reference it follows and each
composition it enters; `room` is what a ceiling leaves at a given depth. A walk without room
yields nothing, and so does one that comes to a component a second time on the same path.
The components passed so far are `active`. A reference without a target yields nothing too,
unless the resolver is strict.
-/

namespace ServiceGen

/-- How many references are followed one after the other, unless another limit is set. -/
def Resolver.defaultMaxDepth : Nat := 100

/-- A document with the rules for following its references. -/
structure Resolver where
  /-- The document. -/
  document : Document
  /-- The greatest depth that a walk may reach. -/
  maxDepth : Nat := Resolver.defaultMaxDepth
  /-- Whether a reference without a target is a failure. -/
  strict : Bool := false

/-- Where a chain of references leads. -/
inductive Lookup
  /-- To a schema, past the given components. -/
  | found (schema : Schema) (active : List String)
  /-- To a reference without a target. -/
  | missing
  /-- Back to a component, or further than there is room for. -/
  | endless

/-- What a branch of a composition contributes. -/
inductive Contribution
  /-- The fields of a schema. -/
  | shape (schema : Schema)
  /-- Nothing. -/
  | nothing
  /-- Nothing, and neither does the composition. -/
  | blocked

namespace Schema

/-- Properties with those of a branch that are not among them yet. -/
def addProperties (properties : List (String × Schema)) :
    List (String × Schema) → List (String × Schema)
  | [] => properties
  | (name, schema) :: rest =>
    addProperties
      (if Entries.has properties name then properties else properties ++ [(name, schema)]) rest

/-- Names with those of a branch that are not among them yet. -/
def addNames (names : List String) : List String → List String
  | [] => names
  | name :: rest => addNames (if names.contains name then names else names ++ [name]) rest

/-- A schema with what a branch adds to it. What is there already stays: the first
definition of a property, the first type and the first description that say something. -/
def absorb (acc branch : Schema) : Schema :=
  { acc with
    properties := addProperties acc.properties branch.properties
    required := addNames acc.required branch.required
    type := if acc.type.isNone && branch.primaryType?.isSome then branch.type else acc.type
    description :=
      if (acc.description.getD "").isEmpty then
        match branch.description with
        | some text => if text.isEmpty then acc.description else some text
        | none => acc.description
      else acc.description }

/-- A schema that is an object unless it has another type. -/
def orObject (s : Schema) : Schema :=
  if s.type.isNone then { s with type := some (.single "object") } else s

end Schema

namespace Resolver

/-- The number of steps that a walk may take from a depth on. -/
def room (r : Resolver) (depth : Nat) : Nat :=
  r.maxDepth + 1 - depth

/-- What comes of a reference without a target. -/
def absent {α : Type} (r : Resolver) (reference : String) (result : α) : Except Failure α :=
  if r.strict then .error (.unresolvable reference) else .ok result

/-- The schema of a component. -/
def component? (r : Resolver) (name : String) : Option Schema :=
  r.document.components.schemas.get? name

/-- The component that a schema reference points at. -/
def target? (r : Resolver) (reference : String) : Option (String × Schema) := do
  let name ← Reference.componentName? .schemas reference
  return (name, ← r.component? name)

/-- Follows a chain of references to the schema at its end. -/
def follow (r : Resolver) : Nat → List String → Schema → Except Failure Lookup
  | 0, _, _ => .ok .endless
  | room + 1, active, schema =>
    match schema.reference with
    | none => .ok (.found schema active)
    | some reference =>
      match r.target? reference with
      | none => r.absent reference .missing
      | some (name, target) =>
        if active.contains name then .ok .endless
        else r.follow room (name :: active) target

/-- The schema at the end of a chain of references, with room for the given steps. -/
def resolveWithin (r : Resolver) (room : Nat) (schema : Schema) :
    Except Failure (Option Schema) := do
  match ← r.follow room [] schema with
  | .found target _ => return some target
  | _ => return none

/-- Merges the contributions of branches, in order. -/
def mergeBranches (contribution : Schema → Except Failure Contribution) :
    List Schema → Schema → Except Failure (Option Schema)
  | [], acc => .ok (some acc)
  | branch :: rest, acc => do
    match ← contribution branch with
    | .shape schema => mergeBranches contribution rest (acc.absorb schema)
    | .nothing => mergeBranches contribution rest acc
    | .blocked => return none

/-- What a branch contributes, given how a composition is flattened. -/
def contributionWith (r : Resolver)
    (flatten : List String → Schema → Except Failure (Option Schema)) (room : Nat)
    (active : List String) (branch : Schema) : Except Failure Contribution := do
  match ← r.follow room active branch with
  | .missing => return .nothing
  | .endless => return .blocked
  | .found schema active =>
    if schema.allOf.isEmpty then return .shape schema
    else match ← flatten active schema with
      | some merged => return .shape merged
      | none => return .blocked

/-- The one object schema that the branches of a composition and what stands beside them
make up. -/
def flatten (r : Resolver) : Nat → List String → Schema → Except Failure (Option Schema)
  | 0, _, _ => .ok none
  | room + 1, active, schema => do
    let contribution := r.contributionWith (r.flatten room) room active
    match ← mergeBranches contribution schema.allOf {} with
    | some merged => return some (merged.absorb { schema with allOf := [] }).orObject
    | none => return none

/-- What a branch contributes. -/
def contribution (r : Resolver) (room : Nat) (active : List String) (branch : Schema) :
    Except Failure Contribution :=
  r.contributionWith (r.flatten room) room active branch

/-- The schema at the end of a chain of references, without `allOf`. -/
def concreteWithin (r : Resolver) (room : Nat) (schema : Schema) :
    Except Failure (Option Schema) := do
  match ← r.follow room [] schema with
  | .found target active =>
    if target.allOf.isEmpty then return some target else r.flatten (room - 1) active target
  | _ => return none

/-- The schema at the end of a chain of references. -/
def resolve (r : Resolver) (schema : Schema) (depth : Nat) : Except Failure (Option Schema) :=
  r.resolveWithin (r.room depth) schema

/-- The schema at the end of a chain of references, without `allOf`. -/
def concrete (r : Resolver) (schema : Schema) (depth : Nat) : Except Failure (Option Schema) :=
  r.concreteWithin (r.room depth) schema

/-- The schema that branches make up. -/
def mergeAllOf (r : Resolver) (branches : List Schema) (depth : Nat) :
    Except Failure (Option Schema) :=
  match r.room depth with
  | 0 => .ok none
  | room + 1 => mergeBranches (r.contribution room []) branches {}

/-- Follows a chain of references through one section of the components. -/
def followItem {α : Type} (r : Resolver) (target : Section) (items : Entries (RefOr α)) :
    Nat → RefOr α → Except Failure (Option α)
  | 0, _ => .ok none
  | _ + 1, .item value => .ok (some value)
  | room + 1, .reference reference =>
    match (Reference.componentName? target reference).bind items.get? with
    | some next => r.followItem target items room next
    | none => r.absent reference none

/-- The parameter at the end of a chain of references. -/
def parameter (r : Resolver) (p : RefOr Parameter) (depth : Nat) :
    Except Failure (Option Parameter) :=
  r.followItem .parameters r.document.components.parameters (r.room depth) p

/-- The request body at the end of a chain of references. -/
def requestBody (r : Resolver) (b : RefOr RequestBody) (depth : Nat) :
    Except Failure (Option RequestBody) :=
  r.followItem .requestBodies r.document.components.requestBodies (r.room depth) b

/-- The response at the end of a chain of references. -/
def response (r : Resolver) (x : RefOr Response) (depth : Nat) :
    Except Failure (Option Response) :=
  r.followItem .responses r.document.components.responses (r.room depth) x

end Resolver

end ServiceGen
