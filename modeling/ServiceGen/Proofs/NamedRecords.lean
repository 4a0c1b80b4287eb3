import ServiceGen.Proofs.Flattening
import ServiceGen.Proofs.Outlines

/-!
# What Records of Responses Are Named After

The record of a response is that of one object, which a walk has come to through envelopes, lists,
pages, choices, compositions and references. Where the last step to the object was a reference, or
the reference led to a composition of which the object is made, the record is named after that
reference. Otherwise it is named after the operation, as an item where the answer is a list.

The names and the marks for lists come from different ends of the walk: the object names the record
by its role, and the list above it marks the shape on the way back. That they agree is an invariant
of the walk (`NamedIn`). That a reference names the object that it leads to is another
(`LedTo`): the composition that a reference leads to is flattened by itself, and that is what the
reference is flattened to.

## Main results

* `Shaped.namedIn`: what the walk to a shape names its record after.
* `namesRecord_of_responseShape`: **what records of responses are named after**, and the answers of
  operations with them.
-/

namespace ServiceGen.Resolver

open Document (closed_of_forall)

variable {r : Resolver} {P : Link → Prop} {typePrefix reference : String} {room : Nat}
  {refName : Option String} {schema : Schema} {role : Role} {shape : ResponseShape}

/-! ### Objects that references lead to -/

/-- A schema is what a reference leads to, or what a composition there is flattened to. -/
inductive LedTo (r : Resolver) (reference : String) : Schema → Prop
  /-- The schema is at the end of the reference. -/
  | target {t : Schema} (htarget : r.resolve (.ofReference reference) 0 = .ok (some t)) :
      LedTo r reference t
  /-- The schema is flattened from what is at the end of the reference. -/
  | flattened {t merged : Schema} (htarget : r.resolve (.ofReference reference) 0 = .ok (some t))
      (hmerged : r.concrete t 0 = .ok (some merged)) : LedTo r reference merged

/-- A reference leads where it does by itself. -/
theorem resolveWithin_of_reference (h : schema.reference = some reference) (room : Nat) :
    r.resolveWithin room schema = r.resolveWithin room (.ofReference reference) := by
  cases room with
  | zero => rfl
  | succ room => simp only [resolveWithin, follow, h, Schema.ofReference]

/-- What a reference is found to lead to on a walk, it leads to. -/
theorem ledTo_of_resolveWithin {t : Schema} (hroom : room ≤ r.maxDepth + 1)
    (hreference : schema.reference = some reference)
    (h : r.resolveWithin room schema = .ok (some t)) : r.LedTo reference t := by
  rw [resolveWithin_of_reference hreference] at h
  have hhides : Hides none (r.resolveWithin room (.ofReference reference))
      (r.resolve (.ofReference reference) 0) := hides_resolveWithin hroom _
  exact .target (hhides.eq_some h)

/-- A reference that leads to a composition leads to what that is flattened to. -/
theorem LedTo.merged {merged : Schema} (h : r.LedTo reference schema)
    (hroom : room ≤ r.maxDepth + 1) (hcomposition : schema.allOf ≠ [])
    (hmerged : r.concreteWithin room schema = .ok (some merged)) : r.LedTo reference merged := by
  cases h with
  | target htarget =>
      have hhides : Hides none (r.concreteWithin room schema) (r.concrete schema 0) :=
        hides_concreteWithin hroom schema
      exact .flattened htarget (hhides.eq_some hmerged)
  | flattened htarget hfirst => exact absurd (of_concreteWithin_eq_some hfirst).2 hcomposition

/-- **An object that a reference leads to** is what the reference is flattened to, under this
ceiling and every higher one. -/
theorem LedTo.concrete (h : r.LedTo reference schema)
    (hkind : schema.kind = .object schema.properties) {ceiling : Nat}
    (hceiling : r.maxDepth ≤ ceiling) :
    (r.document.resolver ceiling r.strict).concrete (.ofReference reference) 0
      = .ok (some schema) := by
  have hconcrete : r.concrete (.ofReference reference) 0 = .ok (some schema) := by
    cases h with
    | target htarget =>
        refine concreteWithin_of_resolveWithin htarget ?_
        obtain ⟨hend, hplain, -, -⟩ := Schema.of_kind_eq_object hkind
        have hroom : r.room 0 = r.maxDepth + 1 := rfl
        rw [hroom, concreteWithin, follow_of_reference_eq_none hend, Outcome.ok_bind]
        exact if_pos hplain
    | flattened htarget hmerged => exact concreteWithin_of_resolveWithin htarget hmerged
  exact (eq_some_of_le hceiling (Nat.le_refl 0) schema).2.1 _ hconcrete

/-! ### Names of records -/

/-- A shape is that of the object that a reference leads to, and has its name from the reference. -/
structure Describes (r : Resolver) (reference : String) (object : Schema) (shape : ResponseShape) :
    Prop where
  /-- The record is named after the reference. -/
  typeName : shape.typeName = pascalCase (Reference.tailName reference)
  /-- The reference leads to the object, under every ceiling that is high enough. -/
  concrete : ∀ ceiling, r.maxDepth ≤ ceiling →
    (r.document.resolver ceiling r.strict).concrete (.ofReference reference) 0 = .ok (some object)
  /-- It is an object. -/
  kind : object.kind = .object object.properties
  /-- The fields of the record are those of the object. -/
  exists_objectFields : ∃ depth, r.objectFields object .body depth = .ok shape.fields
  /-- There is one field for each property, in the order of the properties. -/
  names : shape.fields.map (·.name) = object.properties.map (·.1)

/-- What the record of a shape is named after. The references that it can be named after have a
property. -/
structure NamesRecord (r : Resolver) (typePrefix : String) (P : Link → Prop)
    (shape : ResponseShape) : Prop where
  /-- A page is one of a list. -/
  isList_of_paginated : shape.paginated = true → shape.isList = true
  /-- A record that is no component is named after the operation. -/
  inline : shape.fromComponent = false →
    shape.typeName = typePrefix ++ if shape.isList then "Item" else "Data"
  /-- A record that is a component is named after a reference to it. -/
  component : shape.fromComponent = true →
    ∃ reference object, P (.schemas, reference) ∧ r.Describes reference object shape

/-- Marks for lists are nothing to the reference that a record is named after. -/
theorem Describes.congr {object : Schema} {other : ResponseShape}
    (h : r.Describes reference object shape) (hname : other.typeName = shape.typeName)
    (hfields : other.fields = shape.fields) : r.Describes reference object other :=
  ⟨hname.trans h.typeName, h.concrete, h.kind, hfields ▸ h.exists_objectFields, hfields ▸ h.names⟩

/-- **What a shape is named after** depends on its record and on whether it is marked as a list. -/
theorem NamesRecord.congr {other : ResponseShape} (h : r.NamesRecord typePrefix P shape)
    (hpaginated : other.paginated = true → other.isList = true)
    (hlist : other.isList = shape.isList) (hname : other.typeName = shape.typeName)
    (hfields : other.fields = shape.fields) (hfrom : other.fromComponent = shape.fromComponent) :
    r.NamesRecord typePrefix P other := by
  refine ⟨hpaginated, fun hinline => ?_, fun hcomponent => ?_⟩
  · rw [hname, hlist]
    exact h.inline (hfrom ▸ hinline)
  · obtain ⟨reference, object, hreference, hdescribes⟩ := h.component (hfrom ▸ hcomponent)
    exact ⟨reference, object, hreference, hdescribes.congr hname hfields⟩

/-! ### Names on a walk -/

/-- The reference that has given a schema its name has a property and leads to the schema. -/
def NamedAfter (r : Resolver) (P : Link → Prop) (refName : Option String) (schema : Schema) :
    Prop :=
  ∀ name ∈ refName, ∃ reference, P (.schemas, reference) ∧
    name = pascalCase (Reference.tailName reference) ∧ r.LedTo reference schema

theorem namedAfter_none : r.NamedAfter P none schema := by
  simp [NamedAfter]

/-- What is found as an element is named like what is marked as a list. -/
def NamedIn (r : Resolver) (typePrefix : String) (P : Link → Prop) (role : Role)
    (shape : ResponseShape) : Prop :=
  r.NamesRecord typePrefix P { shape with isList := decide (role = .element) || shape.isList }

/-- What is found in another role is named as it is marked. -/
theorem namedIn_iff_of_ne_element (hrole : role ≠ .element) :
    r.NamedIn typePrefix P role shape ↔ r.NamesRecord typePrefix P shape := by
  simp [NamedIn, hrole]

/-- A list of elements is named as they are. -/
theorem NamedIn.list (h : r.NamedIn typePrefix P .element shape) (paginated : Bool) :
    r.NamedIn typePrefix P role { shape with isList := true, paginated } :=
  NamesRecord.congr h (by simp) (by simp) rfl rfl rfl

/-- The record of an object is named after the reference that led to the object, or by its role. -/
theorem namedIn_of_record {depth : Nat} (hkind : schema.kind = .object schema.properties)
    (hname : r.NamedAfter P refName schema)
    (h : r.record typePrefix schema refName role depth = .ok (some shape)) :
    r.NamedIn typePrefix P role shape := by
  obtain ⟨fields, hfields, h⟩ := Outcome.bind_eq_ok.mp h
  cases h
  cases refName with
  | none =>
      refine ⟨by rintro ⟨⟩, fun _ => ?_, by rintro ⟨⟩⟩
      simp
  | some name =>
      refine ⟨by rintro ⟨⟩, by rintro ⟨⟩, fun _ => ?_⟩
      obtain ⟨reference, hreference, rfl, hledTo⟩ := hname name rfl
      refine ⟨reference, schema, hreference, rfl, fun ceiling => hledTo.concrete hkind, hkind,
        ⟨depth + 1, hfields⟩, ?_⟩
      exact Outcome.map_of_mapM_eq_ok
        (fun property field hfield => congrArg Prod.fst (of_fieldOf_eq_ok hfield)) hfields

/-- **What the walk to a shape names its record after.** -/
theorem Shaped.namedIn (hP : ∀ link ∈ r.document.components.links, P link)
    (h : r.Shaped typePrefix room refName schema role shape) (hroom : room ≤ r.maxDepth + 1)
    (hschema : schema.Confined P) (hname : r.NamedAfter P refName schema) :
    r.NamedIn typePrefix P role shape := by
  induction h with
  | reference hreference htarget _ ih =>
      refine ih (Nat.le_of_succ_le hroom)
        (confined_of_resolveWithin (closed_of_forall hP) hschema htarget) fun name hmem => ?_
      rw [← Option.mem_some_iff.mp hmem]
      exact ⟨_, hschema.reference hreference, rfl, ledTo_of_resolveWithin hroom hreference htarget⟩
  | merged hcomposition hmerged _ ih =>
      have hless := Nat.le_of_succ_le hroom
      refine ih hless (confined_of_concreteWithin (closed_of_forall hP) hschema hmerged)
        fun name hmem => ?_
      obtain ⟨reference, hreference, hpascal, hledTo⟩ := hname name hmem
      exact ⟨reference, hreference, hpascal, hledTo.merged hless hcomposition hmerged⟩
  | choice hbranch _ ih =>
      exact ih (Nat.le_of_succ_le hroom) (hschema.choice hbranch) namedAfter_none
  | payload hdata _ ih =>
      -- Neither the envelope nor its payload is an element.
      have hpayload : Role.payload ≠ .element := by decide
      rw [namedIn_iff_of_ne_element (ne_element_of_payload? hdata),
        ← namedIn_iff_of_ne_element hpayload]
      exact ih (Nat.le_of_succ_le hroom) (hschema.lookup (lookup_of_payload? hdata)) namedAfter_none
  | page hlist hitems _ ih =>
      have hconfined := hschema.lookup (lookup_of_page? hlist)
      exact (ih (Nat.le_of_succ_le hroom) (confined_of_elementsOf? hP hconfined hitems)
        namedAfter_none).list true
  | list hkind _ _ ih =>
      exact (ih (Nat.le_of_succ_le hroom) (hschema.elements hkind) namedAfter_none).list _
  | record hkind hrecord => exact namedIn_of_record hkind hname hrecord

/-! ### Records of operations -/

/-- **What records of responses are named after.** If an operation has a response of some shape,
the JSON schema of the response is where its record comes from: it is named after the operation,
as an item exactly where the answer is a list, or after a reference in that schema or in the
components, and then it has one field for each property of the object that the reference leads to.
The answer of the operation is the record, a list of records, or a struct for a page of them. -/
theorem namesRecord_of_responseShape {op : Operation}
    (h : r.responseShape op typePrefix = .ok (some shape)) :
    (∃ entry response schema, op.responses.get? "200" = some entry ∧
      r.response entry 0 = .ok (some response) ∧ jsonSchema? response.content = some schema ∧
      r.NamesRecord typePrefix (· ∈ schema.links ++ r.document.components.links) shape) ∧
    ∀ method path methodName e, r.endpointNamed method path op methodName = .ok e →
      e.typePrefix = typePrefix → e.response = some shape ∧
        e.responseType =
          if shape.paginated then typePrefix ++ "Response"
          else if shape.isList then "Vec<" ++ shape.typeName ++ ">"
          else shape.typeName := by
  constructor
  · obtain ⟨entry, response, schema, found, hentry, hresponse, hschema, hshaped, rfl⟩ :=
      exists_shaped_of_responseShape h
    refine ⟨entry, response, schema, hentry, hresponse, hschema, ?_⟩
    have hnamed := hshaped.namedIn (P := (· ∈ schema.links ++ r.document.components.links))
      (fun _ hlink => List.mem_append_right _ hlink) (Nat.le_succ _)
      (fun _ hlink => List.mem_append_left _ hlink) namedAfter_none
    rw [namedIn_iff_of_ne_element (by decide)] at hnamed
    exact hnamed.congr hnamed.isList_of_paginated rfl rfl rfl rfl
  · intro method path methodName e he htype
    have hresponse := (analyzed_of_endpointNamed he).response
    rw [htype, h] at hresponse
    have hshape : e.response = some shape := (Except.ok.inj hresponse).symm
    refine ⟨hshape, ?_⟩
    rw [Endpoint.responseType, hshape, htype]
    rfl

/-- An operation that answers with a page of books. -/
def listBooks : Operation where
  responses := [("200", .item {
    content := [("application/json", {
      schema := some {
        properties := [
          ("list", { items := some (.ofReference "#/components/schemas/Book") }),
          ("total", .ofType "integer")] } })] })]

/-- A book is a component that is composed of others, and its record is named after it. -/
theorem namesRecord_of_responseShape_listBooks :
    ∃ shape, (aliasedBook.resolver 9).responseShape listBooks "ListBooks" = .ok (some shape) ∧
      shape.typeName = "Book" ∧ shape.fields.map (·.name) = ["id", "title"] ∧
      ∀ method path methodName e,
        (aliasedBook.resolver 9).endpointNamed method path listBooks methodName = .ok e →
        e.typePrefix = "ListBooks" → e.responseType = "ListBooksResponse" := by
  refine ⟨_, rfl, rfl, rfl, fun method path methodName e he htype => ?_⟩
  exact ((namesRecord_of_responseShape rfl).2 method path methodName e he htype).2

end ServiceGen.Resolver
