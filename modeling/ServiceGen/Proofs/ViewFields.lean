import ServiceGen.Analysis.ModuleView
import ServiceGen.Proofs.Models

/-!
# Fields of a View

The fields of a view come from parameters, request bodies, responses and components, but every
one of them is made by `Resolver.fieldOf`, except for those of a page. Later a path parameter
may be given another identifier, and a field of a model a pointer. So what is true of a field
that is made, and stays true through these two changes, is true of all fields
(`FieldInvariant.of_build`).

`FieldInvariant` has one lemma for each function of the analysis, in the order of their
definitions, and a claim about all fields of a view is a claim about `fieldOf`.
-/

namespace ServiceGen

/-- The fields of an operation: in its path, in its request and in its response. -/
def Endpoint.fields (e : Endpoint) : List Field :=
  e.pathParams ++ e.requestFields ++ (e.response.map (·.fields)).getD []

/-- All fields of a view: those of its operations, then those of its models. -/
def ModuleView.fields (v : ModuleView) : List Field :=
  v.endpoints.flatMap Endpoint.fields ++ v.models.flatMap (·.fields)

/-- A field of a request comes from the query or from the body. -/
theorem Endpoint.requestFields_subset (e : Endpoint) :
    e.requestFields ⊆ e.queryParams ++ e.bodyFields := by
  rw [requestFields]
  refine List.foldlRecOn (motive := (· ⊆ e.queryParams ++ e.bodyFields)) _ _ (List.nil_subset _)
    fun kept hkept f hf => ?_
  split
  · exact hkept
  · exact List.append_subset.mpr ⟨hkept, List.cons_subset.mpr ⟨hf, List.nil_subset _⟩⟩

/-- The fields of a response are fields of its operation. -/
theorem Endpoint.fields_subset_of_response {e : Endpoint} {shape : ResponseShape}
    (h : e.response = some shape) : shape.fields ⊆ e.fields := by
  rw [fields, h]
  exact List.subset_append_right _ _

namespace Model

/-- More fields mention more. -/
theorem refsOf_mono {fields more : List Field} (h : fields ⊆ more) : refsOf fields ⊆ refsOf more := by
  intro component hmem
  obtain ⟨f, hf, hmem⟩ := List.mem_flatMap.mp hmem
  exact List.mem_flatMap.mpr ⟨f, h hf, hmem⟩

/-- What operations mention, their fields do. -/
theorem flatMap_refsOfEndpoint (endpoints : List Endpoint) :
    endpoints.flatMap refsOfEndpoint = refsOf (endpoints.flatMap Endpoint.fields) := by
  rw [refsOf, List.flatMap_assoc]
  refine congrArg (endpoints.flatMap ·) (funext fun e => ?_)
  simp only [refsOfEndpoint, refsOf, Endpoint.fields, List.flatMap_append]

/-! ### New models -/

variable {models : Entries Model}

/-- A model that is added is added under its name, and the others stay. -/
theorem of_mem_addNew {m : Model} {entry : String × Model} (h : entry ∈ addNew m models) :
    entry ∈ models ∨ entry = (m.name, m) := by
  rw [addNew] at h
  split at h
  · exact Or.inl h
  · rename_i hnew
    have hperm := Entries.putSorted_perm m (mt Entries.has_eq_true_iff.mpr hnew)
    exact (List.mem_cons.mp (hperm.mem_iff.mp h)).symm

/-- **A new model** is the record of the response, or its page. -/
theorem of_mem_addResponse {e : Endpoint} {entry : String × Model}
    (h : entry ∈ addResponse e models) :
    entry ∈ models ∨
      (∃ shape, e.response = some shape ∧
        entry.2 = ⟨shape.typeName, shape.description, shape.fields⟩) ∨
      ∃ shape, e.response = some shape ∧ entry.2 = page e.responseType shape.typeName := by
  rw [addResponse] at h
  split at h
  · exact Or.inl h
  · rename_i shape hshape
    have hrecord : ∀ {entry}, entry ∈ addNew ⟨shape.typeName, shape.description, shape.fields⟩
        models → entry ∈ models ∨ ∃ shape, e.response = some shape ∧
          entry.2 = ⟨shape.typeName, shape.description, shape.fields⟩ := by
      intro entry hentry
      rcases of_mem_addNew hentry with hentry | rfl
      · exact Or.inl hentry
      · exact Or.inr ⟨shape, hshape, rfl⟩
    dsimp only at h
    split at h
    · rcases of_mem_addNew h with h | rfl
      · exact (hrecord h).imp_right Or.inl
      · exact Or.inr (Or.inr ⟨shape, hshape, rfl⟩)
    · exact (hrecord h).imp_right Or.inl

/-- Breaking cycles changes no name. -/
theorem map_name_boxRecursive (models : List Model) :
    (boxRecursive models).map (·.name) = models.map (·.name) := by
  rw [boxRecursive, List.map_map]
  rfl

/-- A model with some of its fields behind pointers. -/
structure BoxedFrom (m plain : Model) : Prop where
  /-- The name stays. -/
  name : m.name = plain.name
  /-- The description stays. -/
  description : m.description = plain.description
  /-- Each field stays, or is put behind a pointer. -/
  fields : List.Forall₂ (fun f g => g = f ∨ g = box f) plain.fields m.fields

/-- A field of such a model was there before, as it is or without its pointer. -/
theorem BoxedFrom.of_mem_fields {m plain : Model} (h : m.BoxedFrom plain) {f : Field}
    (hf : f ∈ m.fields) : f ∈ plain.fields ∨ ∃ g ∈ plain.fields, f = box g := by
  obtain ⟨hlength, hget⟩ := List.forall₂_iff_get.mp h.fields
  obtain ⟨i, rfl⟩ := List.get_of_mem hf
  have hi : i < plain.fields.length := by
    rw [hlength]
    exact i.isLt
  rcases hget i hi i.isLt with heq | heq
  · exact Or.inl (heq ▸ List.get_mem _ _)
  · exact Or.inr ⟨_, List.get_mem _ _, heq⟩

/-- **Boxing changes nothing else.** -/
theorem of_mem_boxRecursive {models : List Model} {m : Model} (h : m ∈ boxRecursive models) :
    ∃ plain ∈ models, m.BoxedFrom plain := by
  obtain ⟨plain, hplain, rfl⟩ := List.mem_map.mp h
  refine ⟨plain, hplain, rfl, rfl, ?_⟩
  nth_rewrite 1 [← List.zipIdx_map_fst 0 plain.fields]
  rw [List.forall₂_map_left_iff, List.forall₂_map_right_iff, List.forall₂_same]
  rintro ⟨f, i⟩ -
  dsimp only
  split
  · exact Or.inr rfl
  · exact Or.inl rfl

end Model

namespace Resolver

/-- **All models of a module have** what its records, its pages and the structs of components
have, if a pointer in a field does not take it away. -/
theorem forall_of_models {r : Resolver} {Q : Model → Prop} {endpoints : List Endpoint}
    {models : List Model}
    (hrecord : ∀ e ∈ endpoints, ∀ shape, e.response = some shape →
      Q ⟨shape.typeName, shape.description, shape.fields⟩)
    (hpage : ∀ e ∈ endpoints, ∀ shape, e.response = some shape →
      Q (Model.page e.responseType shape.typeName))
    (hcomponent : ∀ {component object depth fields},
      r.objectFields object .body depth = .ok fields →
        Q ⟨pascalCase component, lineOf? object.description, fields⟩)
    (hbox : ∀ {plain m : Model}, m.BoxedFrom plain → Q plain → Q m)
    (h : r.models endpoints = .ok models) : ∀ m ∈ models, Q m := by
  obtain ⟨entries, hentries, h⟩ := Outcome.bind_eq_ok.mp h
  cases h
  have hrecords : ∀ entry ∈ endpoints.foldl (fun models e => Model.addResponse e models) [],
      Q entry.2 := by
    refine List.foldlRecOn (motive := fun models : Entries Model => ∀ entry ∈ models, Q entry.2)
      endpoints _ (by simp) fun models hmodels e he entry hentry => ?_
    rcases Model.of_mem_addResponse hentry with
      hentry | ⟨shape, hshape, hmodel⟩ | ⟨shape, hshape, hmodel⟩
    · exact hmodels entry hentry
    · exact hmodel ▸ hrecord e he shape hshape
    · exact hmodel ▸ hpage e he shape hshape
  intro m hm
  obtain ⟨plain, hplain, hboxed⟩ := Model.of_mem_boxRecursive hm
  obtain ⟨entry, hentry, rfl⟩ := List.mem_map.mp hplain
  exact hbox hboxed ((keeps_forall hcomponent).of_closeModels hentries hrecords entry hentry)

/-- **The fields of parameters** have what a field has when it is made. -/
theorem forall_of_parameterFields {r : Resolver} {P : Field → Prop}
    (hmade : ∀ {name schema required location description depth f},
      r.fieldOf name schema required location description depth = .ok f → P f)
    {parameters : List (RefOr Parameter)} {inPath inQuery : List Field}
    (h : r.parameterFields parameters = .ok (inPath, inQuery)) :
    (∀ f ∈ inPath, P f) ∧ ∀ f ∈ inQuery, P f := by
  induction parameters generalizing inPath inQuery with
  | nil =>
      cases h
      simp
  | cons entry rest ih =>
      obtain ⟨p, -, h⟩ := Outcome.bind_eq_ok.mp h
      cases p with
      | none => exact ih h
      | some p =>
          dsimp only at h
          split at h
          · obtain ⟨field, hfield, h⟩ := Outcome.bind_eq_ok.mp h
            obtain ⟨⟨path, query⟩, hrest, h⟩ := Outcome.bind_eq_ok.mp h
            cases h
            exact ⟨List.forall_mem_cons.mpr ⟨hmade hfield, (ih hrest).1⟩, (ih hrest).2⟩
          · obtain ⟨field, hfield, h⟩ := Outcome.bind_eq_ok.mp h
            obtain ⟨⟨path, query⟩, hrest, h⟩ := Outcome.bind_eq_ok.mp h
            cases h
            exact ⟨(ih hrest).1, List.forall_mem_cons.mpr ⟨hmade hfield, (ih hrest).2⟩⟩
          · exact ih h

/-- A property that every field has when it is made, and keeps. -/
structure FieldInvariant (r : Resolver) (P : Field → Prop) : Prop where
  /-- The field of a parameter or property has it. -/
  made : ∀ {name schema required location description depth f},
    r.fieldOf name schema required location description depth = .ok f → P f
  /-- A path parameter keeps it when its identifier changes. -/
  apart : ∀ {f}, P f → P (Endpoint.apart f)
  /-- The field of a model keeps it behind a pointer. -/
  box : ∀ {f}, P f → P (Model.box f)
  /-- The fields of a page have it. -/
  page : ∀ {name item f}, f ∈ (Model.page name item).fields → P f

namespace FieldInvariant

variable {r : Resolver} {P : Field → Prop} (hP : r.FieldInvariant P)
include hP

/-! ### Operations -/

/-- The fields of an object have the property. -/
theorem of_objectFields {schema : Schema} {location : FieldLocation} {depth : Nat}
    {fields : List Field} (h : r.objectFields schema location depth = .ok fields) :
    ∀ f ∈ fields, P f :=
  Outcome.forall_of_mapM_eq_ok (fun _ _ hmade => hP.made hmade) h

/-- So have the fields for a path, declared or made up. -/
theorem of_pathFields {path : String} {declared fields : List Field}
    (hdeclared : ∀ f ∈ declared, P f) (h : r.pathFields path declared = .ok fields) :
    ∀ f ∈ fields, P f := by
  obtain ⟨plain, hplain, h⟩ := Outcome.bind_eq_ok.mp h
  cases h
  have hall : ∀ f ∈ plain, P f := by
    refine Outcome.forall_of_mapM_eq_ok (fun name f hf => ?_) hplain
    split at hf
    · rename_i field hfind
      cases hf
      exact hdeclared _ (List.mem_of_find?_eq_some hfind)
    · exact hP.made hf
  exact List.forall_mem_map.mpr fun f hf => hP.apart (hall f hf)

/-- So have the fields for the body of a request. -/
theorem of_bodyFields {body : Option (RefOr RequestBody)} {fields : List Field}
    (h : r.bodyFields body = .ok fields) : ∀ f ∈ fields, P f := by
  have hnone : ∀ {fields : List Field}, (.ok [] : Except Failure _) = .ok fields →
      ∀ f ∈ fields, P f := by
    rintro fields ⟨⟩
    simp
  cases body with
  | none => exact hnone h
  | some entry =>
      obtain ⟨found, -, h⟩ := Outcome.bind_eq_ok.mp h
      cases found with
      | none => exact hnone h
      | some body =>
          dsimp only at h
          split at h
          · exact hnone h
          · obtain ⟨object, -, h⟩ := Outcome.bind_eq_ok.mp h
            cases object with
            | none => exact hnone h
            | some object => exact hP.of_objectFields h

/-- So have all fields of an endpoint. -/
theorem of_analyzed {op : Operation} {methodName : String} {e : Endpoint}
    (h : r.Analyzed op methodName e) : ∀ f ∈ e.fields, P f := by
  obtain ⟨inPath, hparameters, hpath⟩ := h.parameters
  obtain ⟨hinPath, hquery⟩ := forall_of_parameterFields hP.made hparameters
  intro f hf
  rcases List.mem_append.mp hf with hf | hf
  · rcases List.mem_append.mp hf with hf | hf
    · exact hP.of_pathFields hinPath hpath f hf
    · rcases List.mem_append.mp (Endpoint.requestFields_subset _ hf) with hf | hf
      · exact hquery f hf
      · exact hP.of_bodyFields h.body f hf
  · have hresponse := h.response
    cases hshape : e.response with
    | none =>
        rw [hshape] at hf
        cases hf
    | some shape =>
        rw [hshape] at hf hresponse
        obtain ⟨schema, depth, hfields⟩ :=
          (hasRecord_of_responseShape hresponse).exists_objectFields
        exact hP.of_objectFields hfields f hf

/-- So have all fields of the endpoints of a module. -/
theorem of_endpointsFrom {used : List String} {operations : List ModuleOperation}
    {endpoints : List Endpoint} (h : r.endpointsFrom used operations = .ok endpoints) :
    ∀ e ∈ endpoints, ∀ f ∈ e.fields, P f :=
  forall_of_endpointsFrom hP.of_analyzed h

/-! ### Models -/

/-- **All fields of the models of a module** have it if those of its endpoints do. -/
theorem of_models {endpoints : List Endpoint} {models : List Model}
    (hendpoints : ∀ e ∈ endpoints, ∀ f ∈ e.fields, P f) (h : r.models endpoints = .ok models) :
    ∀ m ∈ models, ∀ f ∈ m.fields, P f := by
  refine forall_of_models (Q := fun m => ∀ f ∈ m.fields, P f) (fun e he shape hshape f hf => ?_)
    (fun _ _ _ _ _ hf => hP.page hf) hP.of_objectFields (fun hboxed hplain f hf => ?_) h
  · exact hendpoints e he f (Endpoint.fields_subset_of_response hshape hf)
  · rcases hboxed.of_mem_fields hf with hf | ⟨g, hg, rfl⟩
    · exact hplain f hf
    · exact hP.box (hplain g hg)

/-- **All fields of a view** have what a field has when it is made. -/
theorem of_build {m : ApiModule} {package : String} {v : ModuleView}
    (h : ModuleView.build m package r = .ok v) : ∀ f ∈ v.fields, P f := by
  obtain ⟨endpoints, hendpoints, h⟩ := Outcome.bind_eq_ok.mp h
  obtain ⟨models, hmodels, h⟩ := Outcome.bind_eq_ok.mp h
  cases h
  have hall := hP.of_endpointsFrom hendpoints
  refine List.forall_mem_append.mpr ⟨?_, ?_⟩
  · exact List.forall_mem_flatMap.mpr hall
  · refine List.forall_mem_flatMap.mpr fun model hmodel => ?_
    exact hP.of_models hall hmodels model (List.mem_filter.mp hmodel).1

end FieldInvariant

end Resolver

end ServiceGen
