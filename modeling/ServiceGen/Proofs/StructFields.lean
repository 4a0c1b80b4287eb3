import ServiceGen.Proofs.Identifiers
import ServiceGen.Proofs.StructNames

/-!
# Identifiers in Structs

A struct has a field for each parameter or property, under an identifier that is made from the
name on the wire. Names on the wire differ, but `userId` and `user_id` give one identifier. A
request struct takes the first of several fields with the same identifier, so each stands in it
once (`nodup_ident_requestFields`). A model takes the properties of an object as they are.

## Main results

* `nodup_ident_iff`: **request structs have distinct identifiers**, and a model has exactly if
  the forms of its names on the wire are distinct.
* `not_forall_nodup_ident`: a model may have two fields of one identifier.
-/

namespace ServiceGen

/-! ### Request structs -/

namespace Endpoint

/-- **The fields of a request** have distinct identifiers. -/
theorem nodup_ident_requestFields (e : Endpoint) : (e.requestFields.map (·.ident)).Nodup := by
  rw [requestFields]
  refine List.foldlRecOn (motive := fun kept : List Field => (kept.map (·.ident)).Nodup) _ _ ?_
    fun kept hkept f _ => ?_
  · exact List.nodup_nil
  · split
    · exact hkept
    · rename_i hnew
      have hfresh : f.ident ∉ kept.map (·.ident) := by simpa using hnew
      rw [List.map_append, List.map_singleton, ← List.concat_eq_append, List.nodup_concat]
      exact ⟨hfresh, hkept⟩

end Endpoint

/-! ### Models -/

namespace Resolver

variable {r : Resolver}

/-- A field that is made has the identifier of its name on the wire. -/
theorem ident_of_fieldOf {name : String} {schema : Option Schema} {required : Bool}
    {location : FieldLocation} {description : Option String} {depth : Nat} {f : Field}
    (h : r.fieldOf name schema required location description depth = .ok f) :
    f.ident = fieldIdentifier f.name := by
  obtain ⟨type, -, h⟩ := Outcome.bind_eq_ok.mp h
  obtain ⟨target, -, h⟩ := Outcome.bind_eq_ok.mp h
  cases h
  rfl

/-- The fields of an object are identified by their names. -/
theorem ident_of_objectFields {schema : Schema} {location : FieldLocation} {depth : Nat}
    {fields : List Field} (h : r.objectFields schema location depth = .ok fields) :
    ∀ f ∈ fields, f.ident = fieldIdentifier f.name :=
  Outcome.forall_of_mapM_eq_ok (fun _ _ hmade => ident_of_fieldOf hmade) h

/-- The fields of a response are those of an object. -/
theorem exists_objectFields_of_response {used : List String} {operations : List ModuleOperation}
    {endpoints : List Endpoint} (h : r.endpointsFrom used operations = .ok endpoints) :
    ∀ e ∈ endpoints, ∀ shape, e.response = some shape →
      ∃ schema depth, r.objectFields schema .body depth = .ok shape.fields := by
  refine forall_of_endpointsFrom (fun hanalyzed shape hshape => ?_) h
  have hresponse := hanalyzed.response
  rw [hshape] at hresponse
  exact (hasRecord_of_responseShape hresponse).exists_objectFields

end Resolver

namespace Model

/-- The two fields of a page are named like their identifiers. -/
theorem ident_of_mem_page {name item : String} {f : Field} (h : f ∈ (page name item).fields) :
    f.ident = fieldIdentifier f.name := by
  have hlist : fieldIdentifier "list" = "list" := by decide
  have htotal : fieldIdentifier "total" = "total" := by decide
  rcases List.mem_cons.mp h with rfl | h
  · exact hlist.symm
  · rw [List.mem_singleton.mp h]
    exact htotal.symm

/-- Where each field has the identifier of its name, these are distinct exactly if the forms of
the names are. -/
theorem nodup_ident_iff_of_forall {m : Model}
    (h : ∀ f ∈ m.fields, f.ident = fieldIdentifier f.name) :
    (m.fields.map (·.ident)).Nodup ↔ (m.fields.map fun f => identifierForm f.name).Nodup := by
  refine nodup_map_iff_of_forall fun f hf g hg => ?_
  rw [h f hf, h g hg, fieldIdentifier_eq_iff]

end Model

namespace ModuleView

variable {m : ApiModule} {package : String} {r : Resolver} {v : ModuleView}

/-- **The fields of models** have the identifiers of their names on the wire. -/
theorem ident_of_models (h : build m package r = .ok v) :
    ∀ s ∈ v.models, ∀ f ∈ s.fields, f.ident = fieldIdentifier f.name := by
  obtain ⟨endpoints, hendpoints, h⟩ := Outcome.bind_eq_ok.mp h
  obtain ⟨models, hmodels, h⟩ := Outcome.bind_eq_ok.mp h
  cases h
  have hall := Resolver.forall_of_models
    (Q := fun s => ∀ f ∈ s.fields, f.ident = fieldIdentifier f.name)
    (fun e he shape hshape => by
      obtain ⟨schema, depth, hfields⟩ :=
        Resolver.exists_objectFields_of_response hendpoints e he shape hshape
      exact Resolver.ident_of_objectFields hfields)
    (fun _ _ _ _ _ hf => Model.ident_of_mem_page hf) Resolver.ident_of_objectFields
    (fun hboxed hplain f hf => by
      rcases hboxed.of_mem_fields hf with hf | ⟨g, hg, rfl⟩
      · exact hplain f hf
      · exact hplain g hg) hmodels
  exact fun s hs => hall s (List.mem_filter.mp hs).1

/-- **When the identifiers in structs are distinct.** In request structs they always are. In a
model they are exactly if the names on the wire have distinct forms: snake-case forms, or the
word for a name without words. -/
theorem nodup_ident_iff (h : build m package r = .ok v) :
    (∀ s ∈ v.requests, (s.fields.map (·.ident)).Nodup) ∧
      ∀ s ∈ v.models, ((s.fields.map (·.ident)).Nodup ↔
        (s.fields.map fun f => identifierForm f.name).Nodup) := by
  refine ⟨fun s hs => ?_, fun s hs => Model.nodup_ident_iff_of_forall (ident_of_models h s hs)⟩
  obtain ⟨e, -, rfl⟩ := List.mem_map.mp hs
  exact e.nodup_ident_requestFields

/-- A document of one operation, `getUser`, which answers with a user of two properties. -/
def userWith (first second : String) : Document where
  paths := [("/users", {
    get := some {
      tags := ["user"]
      operationId := some "getUser"
      responses := [("200", .item { content := [("application/json", {
        schema := some (.ofReference "#/components/schemas/User") })] })] } })]
  components := {
    schemas := [("User", {
      type := some (.single "object")
      properties := [(first, .ofType "integer"), (second, .ofType "string")] })] }

/-- The properties `userId` and `name` have distinct identifiers. -/
theorem nodup_ident_iff_user :
    ∃ v, build (.ofDocument (userWith "userId" "name") "user") "shop"
        { document := userWith "userId" "name" } = .ok v ∧
      v.models.map (fun s => s.fields.map (·.name)) = [["userId", "name"]] ∧
        ∀ s ∈ v.declared, (s.fields.map (·.ident)).Nodup := by
  have hview : ((build (.ofDocument (userWith "userId" "name") "user") "shop"
      { document := userWith "userId" "name" }).toOption.map
        fun v => v.models.map fun s => s.fields.map (·.name)) = some [["userId", "name"]] := by
    decide
  obtain ⟨v, hv, hnames⟩ := Outcome.exists_of_map_toOption hview
  obtain ⟨hrequests, hmodels⟩ := nodup_ident_iff hv
  refine ⟨v, hv, hnames, fun s hs => ?_⟩
  rcases List.mem_append.mp hs with hs | hs
  · exact hrequests s hs
  · have hfields : s.fields.map (·.name) ∈ [["userId", "name"]] := hnames ▸ List.mem_map_of_mem hs
    have hforms : (s.fields.map fun f => identifierForm f.name) =
        (s.fields.map (·.name)).map identifierForm := by
      simp only [List.map_map, Function.comp_def]
    rw [hmodels s hs, hforms, List.mem_singleton.mp hfields]
    decide

/-- The properties `userId` and `user_id` have one identifier. -/
theorem not_forall_nodup_ident : ¬ ∀ (d : Document) (name package : String) (r : Resolver)
    (v : ModuleView), build (.ofDocument d name) package r = .ok v →
      ∀ s ∈ v.declared, (s.fields.map (·.ident)).Nodup := by
  intro hall
  let d := userWith "userId" "user_id"
  have hview : ((build (.ofDocument d "user") "shop" { document := d }).toOption.map
      fun v => v.declared.map fun s => s.fields.map (·.ident)) =
        some [["user_id", "user_id"]] := by
    decide
  obtain ⟨v, hv, hidents⟩ := Outcome.exists_of_map_toOption hview
  obtain ⟨s, hs, hfields⟩ := List.mem_map.mp (hidents ▸ List.mem_singleton_self _)
  have hnodup := hall _ _ _ _ v hv s hs
  rw [hfields] at hnodup
  exact absurd hnodup (by decide)

end ModuleView

end ServiceGen
