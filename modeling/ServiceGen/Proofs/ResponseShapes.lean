import ServiceGen.Analysis.ResponseShape
import ServiceGen.Proofs.Links
import ServiceGen.Proofs.ReferenceNames

/-!
# Response Shapes, Case by Case

An object can take one of three roles in a response: an envelope around a payload, a page of a
list, or a record. Which one is decided by its properties alone (`payload?`, `page?`), and
`shapeWithin_object` is the equation of `shapeWithin` by these roles. What a walk did that found a
shape is a derivation (`Shaped`), with a case for each kind of step.

The shape of a response is that of a record (`hasRecord_of_responseShape`): it is named after a
component of the document that a reference led to, or else after the operation, and it has the
fields of an object and a description on one line (`HasRecord`).
-/

namespace ServiceGen

/-- A schema that is an object is neither a reference nor a composition. -/
theorem Schema.of_kind_eq_object {schema : Schema} {properties : List (String × Schema)}
    (h : schema.kind = .object properties) :
    schema.reference = none ∧ schema.allOf.isEmpty = true ∧ schema.oneOf.isEmpty = true ∧
      schema.anyOf.isEmpty = true := by
  rw [kind] at h
  cases hreference : schema.reference with
  | some target =>
      rw [hreference] at h
      cases h
  | none =>
      rw [hreference] at h
      by_cases hcomposition : schema.isComposition = true
      · simp only [hcomposition, if_true] at h
        cases h
      · simpa [isComposition, and_assoc] using hcomposition

namespace Resolver

/-- The payload of an object that is an envelope in a role. -/
def payload? (role : Role) (properties : List (String × Schema)) : Option Schema :=
  if role = .top then properties.lookup "data" else none

/-- The list of an object that is a page in a role. -/
def page? (role : Role) (properties : List (String × Schema)) : Option Schema :=
  if role ≠ .element ∧ (properties.lookup "total").isSome then properties.lookup "list" else none

/-- A payload is a property. -/
theorem lookup_of_payload? {role : Role} {properties : List (String × Schema)} {data : Schema}
    (h : payload? role properties = some data) : properties.lookup "data" = some data := by
  rw [payload?] at h
  split at h
  · exact h
  · cases h

/-- The list of a page is a property. -/
theorem lookup_of_page? {role : Role} {properties : List (String × Schema)} {list : Schema}
    (h : page? role properties = some list) : properties.lookup "list" = some list := by
  rw [page?] at h
  split at h
  · exact h
  · cases h

/-- An element of a list is no envelope. -/
theorem ne_element_of_payload? {role : Role} {properties : List (String × Schema)} {data : Schema}
    (h : payload? role properties = some data) : role ≠ .element := by
  rintro rfl
  cases h

/-- An element of a list is no page. -/
theorem ne_element_of_page? {role : Role} {properties : List (String × Schema)} {list : Schema}
    (h : page? role properties = some list) : role ≠ .element := by
  rintro rfl
  cases h

variable (r : Resolver) (typePrefix : String) (room : Nat) (refName : Option String)
  (schema : Schema) (role : Role) (active : List (String × Role))

/-- The record of an object by itself, where the object has properties or a name. -/
def ownRecord (properties : List (String × Schema)) :
    Except Failure (Option ResponseShape) :=
  if properties.isEmpty && refName.isNone then .ok none
  else r.record typePrefix schema refName role (r.maxDepth - room)

/-- The shape of a page with the given list, or else the record that it is by itself. -/
def pageShape (properties : List (String × Schema)) (list : Schema) :
    Except Failure (Option ResponseShape) := do
  match ← r.elementsOf? list (r.maxDepth - room + 1) with
  | some items =>
    return (← r.shapeWithin typePrefix room none items .element active).map fun shape =>
      { shape with isList := true, paginated := true }
  | none => r.ownRecord typePrefix room refName schema role properties

variable {schema}

/-- **The shape of an object** is that of its payload, of its page or of its record. -/
theorem shapeWithin_object {properties : List (String × Schema)}
    (hkind : schema.kind = .object properties) :
    r.shapeWithin typePrefix (room + 1) refName schema role active =
      match payload? role properties with
      | some data => r.shapeWithin typePrefix room none data .payload active
      | none =>
        match page? role properties with
        | some list => r.pageShape typePrefix room refName schema role active properties list
        | none => r.ownRecord typePrefix room refName schema role properties := by
  obtain ⟨hreference, hall, hone, hany⟩ := Schema.of_kind_eq_object hkind
  rw [shapeWithin, hreference]
  simp only [hall, hone, hany, hkind, payload?, page?, Bool.not_true, Bool.or_self,
    Bool.false_eq_true, if_false]
  -- The roles and the three lookups decide both sides, up to how a page goes on.
  cases role <;> cases properties.lookup "data" <;> cases properties.lookup "list" <;>
    cases properties.lookup "total"
  all_goals first
    | rfl
    | refine bind_congr (x := r.elementsOf? _ _) fun items => ?_
      cases items <;> rfl

/-! ### Records of shapes -/

/-- The names that a record can have: that of a component, or one made from the prefix of the
operation's types. -/
inductive RecordName (components : List String) (typePrefix : String) : String → Prop
  /-- The record is a component. -/
  | component {name : String} (hname : name ∈ components) :
      RecordName components typePrefix (pascalCase name)
  /-- The record is an element of a list. -/
  | item : RecordName components typePrefix (typePrefix ++ "Item")
  /-- The record is the response. -/
  | data : RecordName components typePrefix (typePrefix ++ "Data")

variable {r typePrefix room refName role active}

/-- A name for a record is that of a component of the document. -/
def NamesComponent (r : Resolver) (refName : Option String) : Prop :=
  ∀ name ∈ refName, ∃ component ∈ r.document.components.schemas.names, name = pascalCase component

theorem namesComponent_none : r.NamesComponent none := by
  simp [NamesComponent]

/-- A reference that leads to a schema has the name of a component. -/
theorem namesComponent_of_resolveWithin {schema target : Schema} {reference : String}
    (hreference : schema.reference = some reference)
    (h : r.resolveWithin room schema = .ok (some target)) :
    r.NamesComponent (some (pascalCase (Reference.tailName reference))) := by
  obtain ⟨component, hmem, hcomponent⟩ := exists_component_of_resolveWithin hreference h
  intro name hname
  rw [← Option.mem_some_iff.mp hname]
  exact ⟨component, hmem, Reference.pascalCase_tailName hcomponent⟩

/-- A shape is that of a record. -/
structure HasRecord (r : Resolver) (typePrefix : String) (shape : ResponseShape) : Prop where
  /-- It has one of the names of records. -/
  recordName : RecordName r.document.components.schemas.names typePrefix shape.typeName
  /-- Its fields are those of an object. -/
  exists_objectFields : ∃ schema depth, r.objectFields schema .body depth = .ok shape.fields
  /-- Its description is a line of a text. -/
  exists_lineOf? : ∃ text, shape.description = lineOf? text

/-- Whether the record is one of a list does not matter. -/
theorem HasRecord.congr {shape other : ResponseShape} (h : r.HasRecord typePrefix shape)
    (hname : other.typeName = shape.typeName) (hfields : other.fields = shape.fields)
    (hdescription : other.description = shape.description) : r.HasRecord typePrefix other :=
  ⟨hname ▸ h.recordName, hfields ▸ h.exists_objectFields, hdescription ▸ h.exists_lineOf?⟩

/-- The record of an object has a name of its own, or the name of the reference that led to it. -/
theorem hasRecord_of_record {schema : Schema} {depth : Nat} {shape : ResponseShape}
    (href : r.NamesComponent refName)
    (h : r.record typePrefix schema refName role depth = .ok (some shape)) :
    r.HasRecord typePrefix shape := by
  rw [record] at h
  obtain ⟨fields, hfields, h⟩ := Outcome.bind_eq_ok.mp h
  cases h
  refine ⟨?_, ⟨schema, depth + 1, hfields⟩, ⟨schema.description, rfl⟩⟩
  cases refName with
  | some name =>
      obtain ⟨component, hmem, rfl⟩ := href name rfl
      exact .component hmem
  | none =>
      show RecordName _ typePrefix (typePrefix ++ if role = .element then "Item" else "Data")
      split
      · exact .item
      · exact .data

/-- The first of several results is one of them. -/
theorem of_firstShape_eq_ok {results : List (Unit → Except Failure (Option ResponseShape))}
    {shape : ResponseShape} (h : firstShape results = .ok (some shape)) :
    ∃ result ∈ results, result () = .ok (some shape) := by
  induction results with
  | nil => cases h
  | cons result rest ih =>
      rw [firstShape] at h
      obtain ⟨found, hfound, h⟩ := Outcome.bind_eq_ok.mp h
      cases found with
      | some other =>
          cases h
          exact ⟨result, List.mem_cons_self, hfound⟩
      | none =>
          obtain ⟨next, hnext, hshape⟩ := ih h
          exact ⟨next, List.mem_cons_of_mem result hnext, hshape⟩

/-! ### Walks to a shape -/

/-- The steps of a walk that found a shape, with room for the given steps. -/
inductive Shaped (r : Resolver) (typePrefix : String) :
    Nat → Option String → Schema → Role → ResponseShape → Prop
  /-- A reference has the shape of its target, and gives it a name. -/
  | reference {room : Nat} {refName : Option String} {schema target : Schema} {role : Role}
      {reference : String} {shape : ResponseShape} (hreference : schema.reference = some reference)
      (htarget : r.resolveWithin (room + 1) schema = .ok (some target))
      (hshape : Shaped r typePrefix room (some (pascalCase (Reference.tailName reference))) target
        role shape) : Shaped r typePrefix (room + 1) refName schema role shape
  /-- A composition has the shape of what it is flattened to. -/
  | merged {room : Nat} {refName : Option String} {schema merged : Schema} {role : Role}
      {shape : ResponseShape} (hcomposition : schema.allOf ≠ [])
      (hmerged : r.concreteWithin room schema = .ok (some merged))
      (hshape : Shaped r typePrefix room refName merged role shape) :
      Shaped r typePrefix (room + 1) refName schema role shape
  /-- A choice has the shape of one of its branches. -/
  | choice {room : Nat} {refName : Option String} {schema branch : Schema} {role : Role}
      {shape : ResponseShape} (hbranch : branch ∈ schema.oneOf ++ schema.anyOf)
      (hshape : Shaped r typePrefix room none branch role shape) :
      Shaped r typePrefix (room + 1) refName schema role shape
  /-- An envelope has the shape of its payload. -/
  | payload {room : Nat} {refName : Option String} {schema data : Schema} {role : Role}
      {shape : ResponseShape} (hdata : payload? role schema.properties = some data)
      (hshape : Shaped r typePrefix room none data .payload shape) :
      Shaped r typePrefix (room + 1) refName schema role shape
  /-- A page has the shape of the elements of its list. -/
  | page {room depth : Nat} {refName : Option String} {schema list items : Schema} {role : Role}
      {shape : ResponseShape} (hlist : page? role schema.properties = some list)
      (hitems : r.elementsOf? list depth = .ok (some items))
      (hshape : Shaped r typePrefix room none items .element shape) :
      Shaped r typePrefix (room + 1) refName schema role
        { shape with isList := true, paginated := true }
  /-- A list has the shape of its elements. -/
  | list {room : Nat} {refName : Option String} {schema items : Schema} {role : Role}
      {shape : ResponseShape} (hkind : schema.kind = .array (some items)) (hrole : role ≠ .element)
      (hshape : Shaped r typePrefix room none items .element shape) :
      Shaped r typePrefix (room + 1) refName schema role { shape with isList := true }
  /-- Any other object has the shape of its record. -/
  | record {room depth : Nat} {refName : Option String} {schema : Schema} {role : Role}
      {shape : ResponseShape} (hkind : schema.kind = .object schema.properties)
      (hrecord : r.record typePrefix schema refName role depth = .ok (some shape)) :
      Shaped r typePrefix (room + 1) refName schema role shape

/-- The record of an object by itself is found by a walk. -/
theorem shaped_of_ownRecord {shape : ResponseShape}
    (hkind : schema.kind = .object schema.properties)
    (h : r.ownRecord typePrefix room refName schema role schema.properties = .ok (some shape)) :
    r.Shaped typePrefix (room + 1) refName schema role shape := by
  rw [ownRecord] at h
  split at h
  · cases h
  · exact .record hkind h

/-- **The steps of a walk that found a shape.** -/
theorem shaped_of_shapeWithin {shape : ResponseShape}
    (h : r.shapeWithin typePrefix room refName schema role active = .ok (some shape)) :
    r.Shaped typePrefix room refName schema role shape := by
  induction room generalizing refName schema role active shape with
  | zero => cases h
  | succ room ih =>
      by_cases hobject : ∃ properties, schema.kind = .object properties
      · obtain ⟨properties, hkind⟩ := hobject
        obtain rfl := Schema.properties_of_kind_eq_object hkind
        rw [shapeWithin_object _ _ _ _ _ _ hkind] at h
        split at h
        · rename_i data hdata
          exact .payload hdata (ih h)
        · split at h
          · rename_i list hlist
            obtain ⟨items, hitems, h⟩ := Outcome.bind_eq_ok.mp h
            cases items with
            | none => exact shaped_of_ownRecord hkind h
            | some items =>
                obtain ⟨element, helement, rfl⟩ := Outcome.of_optionMap_eq_ok h
                exact .page hlist hitems (ih helement)
          · exact shaped_of_ownRecord hkind h
      · rw [shapeWithin] at h
        split at h
        · rename_i reference hreference
          split at h
          · cases h
          · obtain ⟨target, htarget, h⟩ := Outcome.bind_eq_ok.mp h
            cases target with
            | none => cases h
            | some target => exact .reference hreference htarget (ih h)
        · split at h
          · rename_i hcomposition
            obtain ⟨merged, hmerged, h⟩ := Outcome.bind_eq_ok.mp h
            cases merged with
            | none => cases h
            | some merged => exact .merged (by simpa using hcomposition) hmerged (ih h)
          · split at h
            · obtain ⟨result, hmem, hshape⟩ := of_firstShape_eq_ok h
              obtain ⟨branch, hbranch, rfl⟩ := List.mem_map.mp hmem
              exact .choice hbranch (ih hshape)
            · split at h
              · rename_i properties hkind
                exact absurd ⟨properties, hkind⟩ hobject
              · rename_i items hkind
                split at h
                · cases h
                · rename_i hrole
                  obtain ⟨element, helement, rfl⟩ := Outcome.of_optionMap_eq_ok h
                  exact .list hkind hrole (ih helement)
              · cases h

/-- **A shape is that of a record**, perhaps marked as a list. -/
theorem Shaped.hasRecord {shape : ResponseShape}
    (h : r.Shaped typePrefix room refName schema role shape) (href : r.NamesComponent refName) :
    r.HasRecord typePrefix shape := by
  induction h with
  | reference hreference htarget _ ih =>
      exact ih (namesComponent_of_resolveWithin hreference htarget)
  | merged _ _ _ ih => exact ih href
  | choice _ _ ih => exact ih namesComponent_none
  | payload _ _ ih => exact ih namesComponent_none
  | page _ _ _ ih => exact (ih namesComponent_none).congr rfl rfl rfl
  | list _ _ _ ih => exact (ih namesComponent_none).congr rfl rfl rfl
  | record _ hrecord => exact hasRecord_of_record href hrecord

/-- A shape of a response is found by a walk from the JSON schema of the response, and described by
the response where it has no description of its own. -/
theorem exists_shaped_of_responseShape {op : Operation} {shape : ResponseShape}
    (h : r.responseShape op typePrefix = .ok (some shape)) :
    ∃ entry response schema found, op.responses.get? "200" = some entry ∧
      r.response entry 0 = .ok (some response) ∧ jsonSchema? response.content = some schema ∧
      r.Shaped typePrefix r.maxDepth none schema .top found ∧ shape = { found with
        description := found.description.or (lineOf? response.description) } := by
  rw [responseShape] at h
  split at h
  · cases h
  · rename_i entry hentry
    obtain ⟨response, hresponse, h⟩ := Outcome.bind_eq_ok.mp h
    cases response with
    | none => cases h
    | some response =>
        dsimp only at h
        split at h
        · cases h
        · rename_i schema hschema
          obtain ⟨found, hfound, rfl⟩ := Outcome.of_optionMap_eq_ok h
          exact ⟨entry, response, schema, found, hentry, hresponse, hschema,
            shaped_of_shapeWithin hfound, rfl⟩

/-- **The shape of a response is that of a record.** -/
theorem hasRecord_of_responseShape {op : Operation} {shape : ResponseShape}
    (h : r.responseShape op typePrefix = .ok (some shape)) : r.HasRecord typePrefix shape := by
  obtain ⟨_, response, _, found, -, -, -, hfound, rfl⟩ := exists_shaped_of_responseShape h
  obtain ⟨hname, hfields, text, htext⟩ := hfound.hasRecord namesComponent_none
  refine ⟨hname, hfields, ?_⟩
  -- The response describes its record where that has no description.
  dsimp only
  cases hdescription : found.description with
  | none => exact ⟨response.description, rfl⟩
  | some line => exact ⟨text, by rw [Option.some_or, ← hdescription, htext]⟩

end Resolver

end ServiceGen
