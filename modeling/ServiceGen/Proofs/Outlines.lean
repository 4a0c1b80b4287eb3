import ServiceGen.Proofs.ResponseShapes
import ServiceGen.Proofs.Settling

/-!
# Outlines of Responses

The outline of a shape is what can be said of it without the types of its fields: their names on
the wire and whether they are required, the name and the description of the record, and whether the
answer is a list of it. The types of the fields may depend on the ceiling; the outline does not.

`Resolver.OutlineSettles` says that the outline of a schema is the same with enough room. There is
one lemma for each way in which a walk can go on from a schema: to the target of a reference, to
what a composition is flattened to, to the branches of a choice, to a payload, to the elements of a
list, or to the record of an object, where it ends.
-/

namespace ServiceGen

/-- What a shape is without the types of its fields. -/
structure ShapeOutline where
  /-- The name of the record. -/
  typeName : String
  /-- A description on one line. -/
  description : Option String
  /-- Whether the answer is a list of records. -/
  isList : Bool
  /-- Whether the answer is a page of a list. -/
  paginated : Bool
  /-- Whether the record is a named component. -/
  fromComponent : Bool
  /-- The names of the fields on the wire, and whether each must be there. -/
  fields : List (String × Bool)
deriving DecidableEq

/-- The outline of a shape. -/
def ResponseShape.outline (shape : ResponseShape) : ShapeOutline where
  typeName := shape.typeName
  description := shape.description
  isList := shape.isList
  paginated := shape.paginated
  fromComponent := shape.fromComponent
  fields := shape.fields.map fun field => (field.name, field.required)

namespace ShapeOutline

/-- The outline of a list of records. -/
def asList (outline : ShapeOutline) : ShapeOutline :=
  { outline with isList := true }

/-- The outline of a page of a list of records. -/
def asPage (outline : ShapeOutline) : ShapeOutline :=
  { outline with isList := true, paginated := true }

end ShapeOutline

/-- The outline of an object as a record, where it has properties or a name. -/
def Schema.ownOutline? (s : Schema) (typePrefix : String) (refName : Option String) (role : Role) :
    Option ShapeOutline :=
  if s.properties.isEmpty && refName.isNone then none
  else some {
    typeName := refName.getD (typePrefix ++ if role = .element then "Item" else "Data")
    description := lineOf? s.description
    isList := false
    paginated := false
    fromComponent := refName.isSome
    fields := s.properties.map fun property => (property.1, s.required.contains property.1) }

/-- The elements of an array. -/
def Schema.elements? (s : Schema) : Option Schema :=
  match s.kind with
  | .array items => items
  | _ => none

/-- A schema with elements is an array of them. -/
theorem Schema.kind_of_elements? {s t : Schema} (h : s.elements? = some t) :
    s.kind = .array (some t) := by
  rw [elements?] at h
  split at h
  · rw [‹s.kind = _›, h]
  · cases h

namespace Resolver

variable {d : Document} {r : Resolver} {typePrefix : String} {refName : Option String}
  {s t : Schema} {role : Role} {active : List (String × Role)} {o : Option ShapeOutline}

/-- The outline of the shape of a schema. -/
def outlineWithin (r : Resolver) (typePrefix : String) (room : Nat) (refName : Option String)
    (s : Schema) (role : Role) (active : List (String × Role)) :
    Except Failure (Option ShapeOutline) := do
  return (← r.shapeWithin typePrefix room refName s role active).map ResponseShape.outline

/-- The outline of the shape of a schema is `o`, with enough room. -/
def OutlineSettles (d : Document) (typePrefix : String) (refName : Option String) (s : Schema)
    (role : Role) (active : List (String × Role)) (o : Option ShapeOutline) : Prop :=
  Settles (fun ceiling room => (d.resolver ceiling).outlineWithin typePrefix room refName s role
    active) o

/-- An outline is that of a shape. -/
theorem outlineWithin_eq_ok {room : Nat} :
    r.outlineWithin typePrefix room refName s role active = .ok o ↔
      ∃ shape, r.shapeWithin typePrefix room refName s role active = .ok shape ∧
        shape.map ResponseShape.outline = o :=
  Outcome.bind_eq_ok.trans (exists_congr fun _ => and_congr_right' Outcome.pure_eq_ok)

/-! ### References -/

/-- A reference that was met before in the same role has no shape. -/
theorem outlineSettles_of_mem {reference : String} (hreference : s.reference = some reference)
    (hactive : (reference, role) ∈ active) :
    OutlineSettles d typePrefix refName s role active none := by
  refine (Settles.pure none).step 0 fun ceiling room _ _ => ?_
  rw [outlineWithin, shapeWithin, hreference]
  dsimp only
  rw [if_pos (List.contains_iff_mem.mpr hactive)]
  rfl

/-- A reference that leads to no schema has no shape. -/
theorem outlineSettles_of_resolve_none {reference : String}
    (hreference : s.reference = some reference) (hactive : (reference, role) ∉ active)
    (hfound : Settles (fun ceiling room => (d.resolver ceiling).resolveWithin room s) none) :
    OutlineSettles d typePrefix refName s role active none := by
  obtain ⟨enough, hfound⟩ := hfound
  refine (Settles.pure none).step enough fun ceiling room hroom hceiling => ?_
  have hnone := hfound ceiling (room + 1) (Nat.le_succ_of_le hroom) (Nat.succ_le_succ hceiling)
  rw [outlineWithin, shapeWithin, hreference]
  dsimp only at hnone ⊢
  rw [if_neg (fun h => hactive (List.contains_iff_mem.mp h)), hnone]
  rfl

/-- A reference has the shape of the schema that it leads to, under its own name. -/
theorem outlineSettles_of_resolve_some {reference : String}
    (hreference : s.reference = some reference) (hactive : (reference, role) ∉ active)
    (hfound : Settles (fun ceiling room => (d.resolver ceiling).resolveWithin room s) (some t))
    (h : OutlineSettles d typePrefix (some (pascalCase (Reference.tailName reference))) t role
      ((reference, role) :: active) o) :
    OutlineSettles d typePrefix refName s role active o := by
  obtain ⟨enough, hfound⟩ := hfound
  refine Settles.step h enough fun ceiling room hroom hceiling => ?_
  have hsome := hfound ceiling (room + 1) (Nat.le_succ_of_le hroom) (Nat.succ_le_succ hceiling)
  rw [outlineWithin, shapeWithin, hreference]
  dsimp only at hsome ⊢
  rw [if_neg (fun h => hactive (List.contains_iff_mem.mp h)), hsome]
  rfl

/-! ### Compositions -/

/-- A composition that is flattened to nothing has no shape. -/
theorem outlineSettles_of_concrete_none (hend : s.reference = none) (hall : s.allOf ≠ [])
    (hfound : Settles (fun ceiling room => (d.resolver ceiling).concreteWithin room s) none) :
    OutlineSettles d typePrefix refName s role active none := by
  obtain ⟨enough, hfound⟩ := hfound
  refine (Settles.pure none).step enough fun ceiling room hroom hceiling => ?_
  have hnone := hfound ceiling room hroom (Nat.le_succ_of_le hceiling)
  rw [outlineWithin, shapeWithin, hend]
  dsimp only at hnone ⊢
  rw [if_pos (by simpa using hall), hnone]
  rfl

/-- A composition has the shape of the schema that it is flattened to. -/
theorem outlineSettles_of_concrete_some (hend : s.reference = none) (hall : s.allOf ≠ [])
    (hfound : Settles (fun ceiling room => (d.resolver ceiling).concreteWithin room s) (some t))
    (h : OutlineSettles d typePrefix refName t role active o) :
    OutlineSettles d typePrefix refName s role active o := by
  obtain ⟨enough, hfound⟩ := hfound
  refine Settles.step h enough fun ceiling room hroom hceiling => ?_
  have hsome := hfound ceiling room hroom (Nat.le_succ_of_le hceiling)
  rw [outlineWithin, shapeWithin, hend]
  dsimp only at hsome ⊢
  rw [if_pos (by simpa using hall), hsome]
  rfl

/-- The first outline of several results is that of the first one with a shape. -/
theorem firstShape_outline {f : Schema → Except Failure (Option ResponseShape)}
    {outline : Schema → Option ShapeOutline} {branches : List Schema}
    (h : ∀ branch ∈ branches, ∃ shape, f branch = .ok shape ∧
      shape.map ResponseShape.outline = outline branch) :
    ∃ shape, firstShape (branches.map fun branch _ => f branch) = .ok shape ∧
      shape.map ResponseShape.outline = branches.findSome? outline := by
  induction branches with
  | nil => exact ⟨none, rfl, rfl⟩
  | cons branch rest ih =>
      obtain ⟨⟨shape, hshape, houtline⟩, hrest⟩ := List.forall_mem_cons.mp h
      rw [List.map_cons, firstShape, hshape, List.findSome?_cons, ← houtline]
      cases shape with
      | none => exact ih hrest
      | some shape => exact ⟨some shape, rfl, rfl⟩

/-- A choice has the first shape of its branches. -/
theorem outlineSettles_of_choice {outline : Schema → Option ShapeOutline}
    (hend : s.reference = none) (hall : s.allOf = []) (hchoice : s.oneOf ++ s.anyOf ≠ [])
    (h : ∀ branch ∈ s.oneOf ++ s.anyOf,
      OutlineSettles d typePrefix none branch role active (outline branch)) :
    OutlineSettles d typePrefix refName s role active ((s.oneOf ++ s.anyOf).findSome? outline) := by
  obtain ⟨enough, hbranches⟩ := Settles.forall_mem h
  refine (Settles.pure _).step enough fun ceiling room hroom hceiling => ?_
  have hbranches := hbranches ceiling room hroom (Nat.le_succ_of_le hceiling)
  have hfirst := firstShape_outline fun branch hbranch =>
    outlineWithin_eq_ok.mp (hbranches branch hbranch)
  refine outlineWithin_eq_ok.mpr ?_
  rw [shapeWithin, hend]
  dsimp only
  rw [if_neg (by simp [hall]), if_pos (by simpa [or_iff_not_imp_left] using hchoice)]
  exact hfirst

/-! ### Records -/

/-- A field has the name that it is made with, and is required as it is made to be. -/
theorem of_fieldOf_eq_ok {name : String} {schema : Option Schema} {required : Bool}
    {location : FieldLocation} {description : Option String} {depth : Nat} {field : Field}
    (h : r.fieldOf name schema required location description depth = .ok field) :
    (field.name, field.required) = (name, required) := by
  obtain ⟨use, -, h⟩ := Outcome.bind_eq_ok.mp h
  obtain ⟨target, -, h⟩ := Outcome.bind_eq_ok.mp h
  cases h
  rfl

/-- **The outline of a record** is that of the object by itself, whatever the room is. -/
theorem ownRecord_outline (hr : r.strict = false) (room : Nat) :
    ∃ shape, r.ownRecord typePrefix room refName s role s.properties = .ok shape ∧
      shape.map ResponseShape.outline = s.ownOutline? typePrefix refName role := by
  have hconfined : s.Confined fun _ => True := fun _ _ => trivial
  have htolerates := tolerates_objectFields (r := r) (fun _ _ => trivial) hconfined .body
    (r.maxDepth - room + 1)
  rw [permissive_eq_self hr] at htolerates
  obtain ⟨fields, hfields⟩ := htolerates.exists_ok
  have hmap := Outcome.map_of_mapM_eq_ok (p := fun field => (field.name, field.required))
    (q := fun property => (property.1, s.required.contains property.1))
    (fun property field hfield => of_fieldOf_eq_ok hfield) hfields
  rw [ownRecord, Schema.ownOutline?]
  split
  · exact ⟨none, rfl, rfl⟩
  · refine ⟨_, by rw [record, hfields]; rfl, ?_⟩
    simp only [Option.map_some, ResponseShape.outline, hmap]

/-! ### Objects and arrays -/

/-- An envelope has the shape of its payload. -/
theorem outlineSettles_of_payload {properties : List (String × Schema)} {data : Schema}
    (hkind : s.kind = .object properties) (hpayload : payload? role properties = some data)
    (h : OutlineSettles d typePrefix none data .payload active o) :
    OutlineSettles d typePrefix refName s role active o := by
  refine Settles.step h 0 fun ceiling room _ _ => ?_
  rw [outlineWithin, shapeWithin_object _ _ _ _ _ _ hkind, hpayload]
  rfl

/-- What the list of a page leads to is looked for with the room of the page. -/
theorem elementsOf?_of_resolveWithin {ceiling room : Nat} {found : Option Schema}
    (hceiling : room ≤ ceiling) (h : (d.resolver ceiling).resolveWithin room s = .ok found) :
    (d.resolver ceiling).elementsOf? s (ceiling - room + 1) =
      .ok (found.bind Schema.elements?) := by
  have hroom : (d.resolver ceiling).room (ceiling - room + 1) = room := by
    show ceiling + 1 - (ceiling - room + 1) = room
    omega
  rw [elementsOf?, resolve, hroom, h, Outcome.ok_bind]
  cases found with
  | none => rfl
  | some target =>
      rw [Option.bind_some, Schema.elements?]
      dsimp only
      cases target.kind <;> rfl

/-- A page has the shape of its elements. -/
theorem outlineSettles_of_page {list items : Schema} {found : Option Schema}
    (hkind : s.kind = .object s.properties) (hpayload : payload? role s.properties = none)
    (hpage : page? role s.properties = some list)
    (hfound : Settles (fun ceiling room => (d.resolver ceiling).resolveWithin room list) found)
    (hitems : found.bind Schema.elements? = some items)
    (h : OutlineSettles d typePrefix none items .element active o) :
    OutlineSettles d typePrefix refName s role active (o.map ShapeOutline.asPage) := by
  obtain ⟨enough, hfound⟩ := hfound
  refine Settles.step (Settles.map h (Option.map ShapeOutline.asPage)) enough
    fun ceiling room hroom hceiling => ?_
  have helements := elementsOf?_of_resolveWithin hceiling
    (hfound ceiling room hroom (Nat.le_succ_of_le hceiling))
  rw [hitems] at helements
  rw [outlineWithin, shapeWithin_object _ _ _ _ _ _ hkind, hpayload, hpage]
  dsimp only
  rw [pageShape]
  have hdepth : (d.resolver ceiling).maxDepth = ceiling := rfl
  rw [hdepth, helements, Outcome.ok_bind]
  dsimp only
  rw [outlineWithin]
  cases (d.resolver ceiling).shapeWithin typePrefix room none items .element active with
  | error failure => rfl
  | ok shape => cases shape <;> rfl

/-- A page whose list leads to no elements is a record. -/
theorem outlineSettles_of_page_none {list : Schema} {found : Option Schema}
    (hkind : s.kind = .object s.properties) (hpayload : payload? role s.properties = none)
    (hpage : page? role s.properties = some list)
    (hfound : Settles (fun ceiling room => (d.resolver ceiling).resolveWithin room list) found)
    (hitems : found.bind Schema.elements? = none) :
    OutlineSettles d typePrefix refName s role active (s.ownOutline? typePrefix refName role) := by
  obtain ⟨enough, hfound⟩ := hfound
  refine (Settles.pure _).step enough fun ceiling room hroom hceiling => ?_
  have helements := elementsOf?_of_resolveWithin hceiling
    (hfound ceiling room hroom (Nat.le_succ_of_le hceiling))
  rw [hitems] at helements
  refine outlineWithin_eq_ok.mpr ?_
  rw [shapeWithin_object _ _ _ _ _ _ hkind, hpayload, hpage]
  dsimp only
  have hdepth : (d.resolver ceiling).maxDepth = ceiling := rfl
  rw [pageShape, hdepth, helements]
  exact ownRecord_outline rfl room

/-- An object that is neither an envelope nor a page is a record. -/
theorem outlineSettles_of_record (hkind : s.kind = .object s.properties)
    (hpayload : payload? role s.properties = none) (hpage : page? role s.properties = none) :
    OutlineSettles d typePrefix refName s role active (s.ownOutline? typePrefix refName role) := by
  refine (Settles.pure _).step 0 fun ceiling room _ _ => outlineWithin_eq_ok.mpr ?_
  rw [shapeWithin_object _ _ _ _ _ _ hkind, hpayload, hpage]
  exact ownRecord_outline rfl room

/-- The shape of what is no object is that of its elements, if it is an array. -/
theorem shapeWithin_of_plain (hplain : s.Plain)
    (hobject : ∀ properties, s.kind ≠ .object properties) (room : Nat) :
    r.shapeWithin typePrefix (room + 1) refName s role active =
      match s.kind with
      | .array (some items) =>
        if role = .element then .ok none
        else do
          return (← r.shapeWithin typePrefix room none items .element active).map fun shape =>
            { shape with isList := true }
      | _ => .ok none := by
  rw [shapeWithin, hplain.reference]
  simp only [hplain.allOf, hplain.oneOf, hplain.anyOf, List.isEmpty_nil, Bool.not_true,
    Bool.or_self, Bool.false_eq_true, if_false]
  cases hkind : s.kind with
  | object properties => exact absurd hkind (hobject properties)
  | array items => cases items <;> rfl
  | _ => rfl

/-- An array has the shape of its elements. -/
theorem outlineSettles_of_array {items : Schema} (hplain : s.Plain)
    (hkind : s.kind = .array (some items)) (hrole : role ≠ .element)
    (h : OutlineSettles d typePrefix none items .element active o) :
    OutlineSettles d typePrefix refName s role active (o.map ShapeOutline.asList) := by
  refine Settles.step (Settles.map h (Option.map ShapeOutline.asList)) 0 fun ceiling room _ _ => ?_
  rw [outlineWithin, shapeWithin_of_plain hplain (by simp [hkind]), hkind, outlineWithin]
  dsimp only
  rw [if_neg hrole]
  cases (d.resolver ceiling).shapeWithin typePrefix room none items .element active with
  | error failure => rfl
  | ok shape => cases shape <;> rfl

/-- The elements of a list that are lists, and what is no object, have no shape. -/
theorem outlineSettles_of_kind (hplain : s.Plain)
    (hobject : ∀ properties, s.kind ≠ .object properties)
    (harray : role = .element ∨ ∀ items, s.kind ≠ .array (some items)) :
    OutlineSettles d typePrefix refName s role active none := by
  refine (Settles.pure _).step 0 fun ceiling room _ _ => ?_
  rw [outlineWithin, shapeWithin_of_plain hplain hobject]
  split
  · rw [if_pos (harray.resolve_right fun h => h _ ‹_›)]
    rfl
  · rfl

end Resolver
end ServiceGen
