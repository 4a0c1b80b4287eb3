import ServiceGen.Analysis.Endpoint

/-!
# Models

The structs that the types of a module need: the records of its responses, the pages of its
lists, and the components that these and the requests mention, directly or through others.

A struct cannot hold itself by value. `boxRecursive` puts a pointer into every field that
closes a cycle of structs holding each other.
-/

namespace ServiceGen

/-- A struct. -/
structure Model where
  /-- Its name. -/
  name : String
  /-- A description on one line. -/
  description : Option String
  /-- Its fields. -/
  fields : List Field
deriving DecidableEq, Inhabited

namespace Model

/-- The struct of a page of a list. -/
def page (name item : String) : Model :=
  let field (name type : String) : Field := {
    name, ident := name, type, baseType := type, required := true, renamed := false
    validation := none, description := none, location := .body
    sample := "Default::default()", refs := [] }
  { name
    description := some ("Paginated list of [`" ++ item ++ "`].")
    fields := [field "list" (FieldType.list item), field "total" "i64"] }

/-- Models with one more, unless its name is taken. -/
def addNew (m : Model) (models : Entries Model) : Entries Model :=
  if models.has m.name then models else models.putSorted m.name m

/-- The components that fields mention. -/
def refsOf (fields : List Field) : List String :=
  fields.flatMap (·.refs)

/-- Models with those of the response of an operation. -/
def addResponse (e : Endpoint) (models : Entries Model) : Entries Model :=
  match e.response with
  | none => models
  | some r =>
    let models := addNew ⟨r.typeName, r.description, r.fields⟩ models
    if r.paginated then addNew (page e.responseType r.typeName) models else models

/-- The components that an operation mentions. -/
def refsOfEndpoint (e : Endpoint) : List String :=
  refsOf (e.pathParams ++ e.requestFields) ++ refsOf ((e.response.map (·.fields)).getD [])

end Model

namespace Resolver

/-- Models with those of some components, and the components that these mention. -/
def addComponents (r : Resolver) (depth : Nat) :
    List String → Entries Model → Except Failure (Entries Model × List String)
  | [], models => .ok (models, [])
  | component :: rest, models => do
    let name := pascalCase component
    if models.has name then r.addComponents depth rest models
    else
      let object ← match r.component? component with
        | none => pure none
        | some schema => r.concrete schema depth
      match object with
      | none => r.addComponents depth rest models
      | some object =>
        let fields ← r.objectFields object .body (depth + 1)
        let model : Model := ⟨name, lineOf? object.description, fields⟩
        let (models, found) ← r.addComponents depth rest (models.putSorted name model)
        return (models, Model.refsOf fields ++ found)

/-- Models with those of some components and of all that these mention in turn, with room
for the given number of turns. -/
def closeModels (r : Resolver) : Nat → List String → Entries Model →
    Except Failure (Entries Model)
  | 0, _, models => .ok models
  | _, [], models => .ok models
  | room + 1, pending, models => do
    let (models, found) ← r.addComponents (r.maxDepth - room) pending models
    r.closeModels room found models

end Resolver

namespace Model

/-- The fields of a model that hold a model by value, with their positions. -/
def edges (models : List Model) (m : Model) : List (Nat × Model) :=
  m.fields.zipIdx.filterMap fun (f, i) =>
    (models.find? (·.name == f.baseType)).map fun target => (i, target)

/-- What a walk over the models has found. -/
structure Walk where
  /-- The names of the models that were come to. -/
  seen : List String := []
  /-- The fields that lead back to a model on the way to theirs. -/
  back : List (String × Nat) := []

/-- Walks on from a model that was not come to before. `trail` are the models on the way to
it; at most `fuel` of them may follow. -/
def walkFrom (models : List Model) : Nat → List String → Model → Walk → Walk
  | 0, _, _, walk => walk
  | fuel + 1, trail, m, walk =>
    let trail := m.name :: trail
    (edges models m).foldl (fun walk (i, target) =>
      if trail.contains target.name then { walk with back := (m.name, i) :: walk.back }
      else if walk.seen.contains target.name then walk
      else walkFrom models fuel trail target walk)
      { walk with seen := m.name :: walk.seen }

/-- The walk over all models, in order. -/
def walkAll (models : List Model) : Walk :=
  models.foldl (fun walk m =>
    if walk.seen.contains m.name then walk else walkFrom models models.length [] m walk) {}

/-- A field behind a pointer. -/
def box (f : Field) : Field :=
  f.withBaseType (FieldType.boxed f.baseType)

/-- Models in which no struct holds itself by value: the fields that close a cycle are
behind a pointer. -/
def boxRecursive (models : List Model) : List Model :=
  let back := (walkAll models).back
  models.map fun m =>
    { m with fields := m.fields.zipIdx.map fun (f, i) =>
        if back.contains (m.name, i) then box f else f }

end Model

/-- The models of a module with the given operations, ascending by name. Of several with the
same name the first counts. -/
def Resolver.models (r : Resolver) (endpoints : List Endpoint) : Except Failure (List Model) := do
  let models := endpoints.foldl (fun models e => Model.addResponse e models) []
  let pending := endpoints.flatMap Model.refsOfEndpoint
  let models ← r.closeModels r.maxDepth pending models
  return Model.boxRecursive (models.map (·.2))

end ServiceGen
