import ServiceGen.Analysis.Model
import ServiceGen.Proofs.ResponseShapes
import ServiceGen.Proofs.Words

/-!
# Collecting Models

The models of a module are collected in three turns: the records of the responses, the
components that the operations mention, and the components that these mention, until nothing
is left or the room is used up. `Adds` says what happens to the components of one turn, and
what the struct of one component keeps, all turns keep (`Keeps.of_closeModels`).

Throughout, a model stands under its own name, each name stands once, and no name has
punctuation in it (`WellNamed`), so none can be mistaken for a type such as a list or a pointer.
-/

namespace ServiceGen

/-! ### Ascending entries -/

namespace Entries

variable {α : Type} {name : String} {entries : Entries α}

/-- There is a value under the names of the entries. -/
theorem has_eq_true_iff : entries.has name = true ↔ name ∈ entries.names := by
  simp [has, names]

/-- A new name is put somewhere among the others. -/
theorem putSorted_perm (value : α) (h : name ∉ entries.names) :
    (entries.putSorted name value).Perm ((name, value) :: entries) := by
  induction entries with
  | nil => exact List.Perm.refl _
  | cons entry rest ih =>
      obtain ⟨other, old⟩ := entry
      rw [names, List.map_cons, List.mem_cons, not_or] at h
      rw [putSorted]
      split
      · exact List.Perm.refl _
      · rw [if_neg (by simpa using h.1)]
        exact ((ih h.2).cons _).trans (List.Perm.swap _ _ _)

/-- Putting a new entry adds its name. -/
theorem mem_names_putSorted {other : String} (value : α) (h : name ∉ entries.names) :
    other ∈ (entries.putSorted name value).names ↔ other = name ∨ other ∈ entries.names := by
  rw [names, ((putSorted_perm value h).map _).mem_iff, List.map_cons, List.mem_cons]
  exact Iff.rfl

end Entries

/-! ### Names of models -/

namespace Model

/-- Models under their own names, each name once and none of them with punctuation. -/
structure WellNamed (models : Entries Model) : Prop where
  /-- A model stands under its name. -/
  own : ∀ entry ∈ models, entry.2.name = entry.1
  /-- No name has punctuation in it. -/
  unpunctuated : ∀ entry ∈ models, Text.Unpunctuated entry.1.toList
  /-- Each name stands once. -/
  nodup : models.names.Nodup

theorem wellNamed_nil : WellNamed [] :=
  ⟨by simp, by simp, List.nodup_nil⟩

/-- The names that models stand under are their own. -/
theorem WellNamed.map_name {models : Entries Model} (h : WellNamed models) :
    (models.map (·.2)).map (·.name) = models.names := by
  rw [List.map_map, Entries.names]
  exact List.map_congr_left h.own

/-- **A model under a new name** keeps the others as they are. -/
theorem WellNamed.putSorted {models : Entries Model} (h : WellNamed models) {m : Model}
    (hname : Text.Unpunctuated m.name.toList) (hnew : m.name ∉ models.names) :
    WellNamed (models.putSorted m.name m) := by
  have hperm := Entries.putSorted_perm m hnew
  refine ⟨fun entry hentry => ?_, fun entry hentry => ?_, ?_⟩
  · rcases List.mem_cons.mp (hperm.mem_iff.mp hentry) with rfl | hentry
    · rfl
    · exact h.own entry hentry
  · rcases List.mem_cons.mp (hperm.mem_iff.mp hentry) with rfl | hentry
    · exact hname
    · exact h.unpunctuated entry hentry
  · rw [Entries.names, (hperm.map _).nodup_iff, List.map_cons, List.nodup_cons]
    exact ⟨hnew, h.nodup⟩

/-- Adding a model without punctuation in its name keeps the models well named. -/
theorem WellNamed.addNew {models : Entries Model} (h : WellNamed models) {m : Model}
    (hname : Text.Unpunctuated m.name.toList) : WellNamed (addNew m models) := by
  rw [Model.addNew]
  split
  · exact h
  · rename_i hnew
    exact h.putSorted hname (mt Entries.has_eq_true_iff.mpr hnew)

/-- The names of an operation's types have no punctuation. -/
theorem unpunctuated_typePrefixOf (methodName : String) :
    Text.Unpunctuated (Endpoint.typePrefixOf methodName).toList := by
  rw [Endpoint.typePrefixOf, pascalCase, String.toList_ofList]
  exact Text.unpunctuated_pascal _

/-- A name with an ending of letters has no punctuation. -/
theorem unpunctuated_append {name ending : String} (hname : Text.Unpunctuated name.toList)
    (hending : ending.toList.all Char.isAlphanum = true) :
    Text.Unpunctuated (name ++ ending).toList := by
  rw [String.toList_append]
  exact hname.append (Text.unpunctuated_of_all hending)

/-- The name of a record has no punctuation. -/
theorem unpunctuated_of_recordName {components : List String} {methodName name : String}
    (h : Resolver.RecordName components (Endpoint.typePrefixOf methodName) name) :
    Text.Unpunctuated name.toList := by
  cases h with
  | component =>
      rw [pascalCase, String.toList_ofList]
      exact Text.unpunctuated_pascal _
  | item => exact unpunctuated_append (unpunctuated_typePrefixOf methodName) (by decide)
  | data => exact unpunctuated_append (unpunctuated_typePrefixOf methodName) (by decide)

/-- An operation whose record is named as the record of a response is, after one of the given
components or after the operation. -/
def RecordNamed (components : List String) (e : Endpoint) : Prop :=
  ∀ shape, e.response = some shape → Resolver.RecordName components e.typePrefix shape.typeName

/-- So does adding the records of a response. -/
theorem WellNamed.addResponse {models : Entries Model} (h : WellNamed models)
    {components : List String} {e : Endpoint} (he : RecordNamed components e) :
    WellNamed (addResponse e models) := by
  rw [Model.addResponse]
  split
  · exact h
  · rename_i shape hshape
    have hrecord := h.addNew (m := ⟨shape.typeName, shape.description, shape.fields⟩)
      (unpunctuated_of_recordName (he shape hshape))
    dsimp only
    split
    · rename_i hpaginated
      refine hrecord.addNew ?_
      show Text.Unpunctuated e.responseType.toList
      rw [Endpoint.responseType, hshape]
      simp only [hpaginated, if_true]
      exact unpunctuated_append (unpunctuated_typePrefixOf _) (by decide)
    · exact hrecord

end Model

namespace Resolver

variable {r : Resolver}

/-- The object that a component gives a struct of. -/
def componentObject (r : Resolver) (component : String) (depth : Nat) :
    Except Failure (Option Schema) :=
  match r.component? component with
  | none => .ok none
  | some schema => r.concrete schema depth

/-- **One component more**: it is passed over if its struct is there or it is no object. -/
theorem addComponents_cons (depth : Nat) (component : String) (rest : List String)
    (models : Entries Model) :
    r.addComponents depth (component :: rest) models =
      if models.has (pascalCase component) then r.addComponents depth rest models
      else do
        match ← r.componentObject component depth with
        | none => r.addComponents depth rest models
        | some object =>
          let fields ← r.objectFields object .body (depth + 1)
          let m : Model := ⟨pascalCase component, lineOf? object.description, fields⟩
          let (models, found) ← r.addComponents depth rest (models.putSorted m.name m)
          return (models, Model.refsOf fields ++ found) := by
  rw [addComponents, componentObject]
  split
  · rfl
  · cases r.component? component <;> rfl

/-- What an operation is when it is analyzed under a name. -/
structure Analyzed (r : Resolver) (op : Operation) (methodName : String) (e : Endpoint) :
    Prop where
  /-- It has the name. -/
  methodName : e.methodName = methodName
  /-- Its parameters are in the query, or in the path where a placeholder is. -/
  parameters : ∃ inPath, r.parameterFields op.parameters = .ok (inPath, e.queryParams) ∧
    r.pathFields e.path inPath = .ok e.pathParams
  /-- Its body has the properties of the request body. -/
  body : r.bodyFields op.requestBody = .ok e.bodyFields
  /-- Its response has a shape, or none. -/
  response : r.responseShape op e.typePrefix = .ok e.response

/-- An endpoint is the analysis of its operation. -/
theorem analyzed_of_endpointNamed {method path methodName : String} {op : Operation}
    {e : Endpoint} (h : r.endpointNamed method path op methodName = .ok e) :
    r.Analyzed op methodName e := by
  obtain ⟨⟨inPath, queryParams⟩, hparameters, h⟩ := Outcome.bind_eq_ok.mp h
  obtain ⟨pathParams, hpath, h⟩ := Outcome.bind_eq_ok.mp h
  obtain ⟨bodyFields, hbody, h⟩ := Outcome.bind_eq_ok.mp h
  obtain ⟨response, hresponse, h⟩ := Outcome.bind_eq_ok.mp h
  cases h
  exact ⟨rfl, ⟨inPath, hparameters, hpath⟩, hbody, hresponse⟩

/-- **All operations have** what an operation has when it is analyzed. -/
theorem forall_of_endpointsFrom {P : Endpoint → Prop}
    (h : ∀ {op methodName e}, r.Analyzed op methodName e → P e) {used : List String}
    {operations : List ModuleOperation} {endpoints : List Endpoint}
    (hfrom : r.endpointsFrom used operations = .ok endpoints) : ∀ e ∈ endpoints, P e := by
  induction operations generalizing used endpoints with
  | nil =>
      cases hfrom
      simp
  | cons entry rest ih =>
      rw [endpointsFrom] at hfrom
      obtain ⟨first, hfirst, hfrom⟩ := Outcome.bind_eq_ok.mp hfrom
      obtain ⟨others, hothers, hfrom⟩ := Outcome.bind_eq_ok.mp hfrom
      cases hfrom
      exact List.forall_mem_cons.mpr ⟨h (analyzed_of_endpointNamed hfirst), ih hothers⟩

/-- The record of an analyzed operation has the name of a record of its response. -/
theorem recordNamed_of_endpointsFrom {used : List String} {operations : List ModuleOperation}
    {endpoints : List Endpoint} (h : r.endpointsFrom used operations = .ok endpoints) :
    ∀ e ∈ endpoints, Model.RecordNamed r.document.components.schemas.names e := by
  refine forall_of_endpointsFrom (fun hanalyzed shape hshape => ?_) h
  have hresponse := hanalyzed.response
  rw [hshape] at hresponse
  exact (hasRecord_of_responseShape hresponse).recordName

/-- What a turn over some components does: the models that there are afterwards, and the
components that the new ones mention. -/
inductive Adds (r : Resolver) (depth : Nat) :
    List String → Entries Model → Entries Model → List String → Prop
  /-- No component is left. -/
  | done (models : Entries Model) : Adds r depth [] models models []
  /-- There is a struct of the name of the component already. -/
  | skip {component : String} {rest found : List String} {models after : Entries Model}
      (hhas : pascalCase component ∈ models.names) (hrest : Adds r depth rest models after found) :
      Adds r depth (component :: rest) models after found
  /-- The component gives no object. -/
  | pass {component : String} {rest found : List String} {models after : Entries Model}
      (hnone : r.componentObject component depth = .ok none)
      (hrest : Adds r depth rest models after found) :
      Adds r depth (component :: rest) models after found
  /-- The object of the component becomes a struct. -/
  | take {component : String} {rest found : List String} {models after : Entries Model}
      {object : Schema} {fields : List Field} (hnew : pascalCase component ∉ models.names)
      (hobject : r.componentObject component depth = .ok (some object))
      (hfields : r.objectFields object .body (depth + 1) = .ok fields)
      (hrest : Adds r depth rest (models.putSorted (pascalCase component)
        ⟨pascalCase component, lineOf? object.description, fields⟩) after found) :
      Adds r depth (component :: rest) models after (Model.refsOf fields ++ found)

/-- **What a turn has done.** -/
theorem adds_of_addComponents_eq_ok {depth : Nat} {components found : List String}
    {models after : Entries Model}
    (h : r.addComponents depth components models = .ok (after, found)) :
    r.Adds depth components models after found := by
  induction components generalizing models found with
  | nil =>
      cases h
      exact .done _
  | cons component rest ih =>
      rw [addComponents_cons] at h
      split at h
      · rename_i hhas
        exact .skip (Entries.has_eq_true_iff.mp hhas) (ih h)
      · rename_i hnew
        obtain ⟨object, hobject, h⟩ := Outcome.bind_eq_ok.mp h
        cases object with
        | none => exact .pass hobject (ih h)
        | some object =>
            obtain ⟨fields, hfields, h⟩ := Outcome.bind_eq_ok.mp h
            obtain ⟨⟨others, more⟩, hothers, h⟩ := Outcome.bind_eq_ok.mp h
            cases h
            exact .take (fun hhas => hnew (Entries.has_eq_true_iff.mpr hhas)) hobject hfields
              (ih hothers)

/-- A property of models that the struct of one component more keeps. -/
structure Keeps (r : Resolver) (P : Entries Model → Prop) : Prop where
  /-- The struct comes under a new name and has the fields of the object of the component. -/
  take : ∀ {depth component models object fields}, pascalCase component ∉ models.names →
    r.componentObject component depth = .ok (some object) →
      r.objectFields object .body (depth + 1) = .ok fields → P models →
        P (models.putSorted (pascalCase component)
          ⟨pascalCase component, lineOf? object.description, fields⟩)

/-- **A turn keeps** what each of its structs keeps. -/
theorem Keeps.of_adds {P : Entries Model → Prop} (hP : r.Keeps P) {depth : Nat}
    {components found : List String} {models after : Entries Model}
    (h : r.Adds depth components models after found) (hmodels : P models) : P after := by
  induction h with
  | done => exact hmodels
  | skip hhas hrest ih => exact ih hmodels
  | pass hnone hrest ih => exact ih hmodels
  | take hnew hobject hfields hrest ih => exact ih (hP.take hnew hobject hfields hmodels)

/-- **All turns keep** what each of their structs keeps. -/
theorem Keeps.of_closeModels {P : Entries Model → Prop} (hP : r.Keeps P) {room : Nat}
    {pending : List String} {models after : Entries Model}
    (h : r.closeModels room pending models = .ok after) (hmodels : P models) : P after := by
  induction room generalizing pending models with
  | zero =>
      cases h
      exact hmodels
  | succ room ih =>
      cases pending with
      | nil =>
          cases h
          exact hmodels
      | cons component rest =>
          obtain ⟨⟨others, found⟩, hothers, h⟩ := Outcome.bind_eq_ok.mp h
          exact ih h (hP.of_adds (adds_of_addComponents_eq_ok hothers) hmodels)

/-- What each struct of a component has, all models keep. -/
theorem keeps_forall {Q : Model → Prop}
    (h : ∀ {component object depth fields}, r.objectFields object .body depth = .ok fields →
      Q ⟨pascalCase component, lineOf? object.description, fields⟩) :
    r.Keeps fun models => ∀ entry ∈ models, Q entry.2 where
  take hnew _ hfields hmodels := by
    intro entry hentry
    rcases List.mem_cons.mp ((Entries.putSorted_perm _ hnew).mem_iff.mp hentry) with
      rfl | hentry
    · exact h hfields
    · exact hmodels entry hentry

/-- The struct of a component is well-named. -/
theorem keeps_wellNamed (r : Resolver) : r.Keeps Model.WellNamed where
  take {_ component _ object fields} hnew _ _ hmodels := by
    have hname : Text.Unpunctuated (pascalCase component).toList := by
      rw [pascalCase, String.toList_ofList]
      exact Text.unpunctuated_pascal _
    exact hmodels.putSorted (m := ⟨_, lineOf? object.description, fields⟩) hname hnew

/-- **The models of a module are well-named** before their cycles are broken. -/
theorem exists_wellNamed_of_models {components : List String} {endpoints : List Endpoint}
    {models : List Model} (hendpoints : ∀ e ∈ endpoints, Model.RecordNamed components e)
    (h : r.models endpoints = .ok models) :
    ∃ entries : Entries Model, r.closeModels r.maxDepth (endpoints.flatMap Model.refsOfEndpoint)
        (endpoints.foldl (fun models e => Model.addResponse e models) []) = .ok entries ∧
      Model.WellNamed entries ∧ models = Model.boxRecursive (entries.map (·.2)) := by
  obtain ⟨entries, hentries, h⟩ := Outcome.bind_eq_ok.mp h
  cases h
  refine ⟨entries, hentries, (keeps_wellNamed r).of_closeModels hentries ?_, rfl⟩
  refine List.foldlRecOn endpoints _ Model.wellNamed_nil fun models hmodels e he => ?_
  exact hmodels.addResponse (hendpoints e he)

end Resolver

end ServiceGen
