import ServiceGen.Proofs.Mentions
import ServiceGen.Proofs.ValueGraph

/-!
# Structs That Are Mentioned and Declared

The types of a module compile only if every struct that they name is declared among them. The
components that the operations mention are taken turn by turn, and what one turn finds is taken
in the next. A turn declares the structs of the components that give one, and it loses no
component that its new structs mention (`Adds.covers_and_awaits`).

Every turn but the last declares a struct that was not there before. So there are no more turns
than components, and under a high ceiling the last of them still has the room that flattening
takes: in the end all that is mentioned and gives a struct is declared. What is mentioned and
gives none is not, unless something else has its name.

## Main results

* `covers_of_closeModels`: what is mentioned and gives a struct is declared in the end.
* `of_mem_names_models`: nothing else is declared, but for the records of responses.
* `closed_iff`: **when all structs that a view names are declared**.
* `not_forall_closed`: they are not where a component is composed of itself.
-/

namespace ServiceGen

/-! ### Names of structs -/

/-- The structs that an operation answers with: its record, and the page of its list. -/
def Endpoint.recordTypes (e : Endpoint) : List String :=
  match e.response with
  | none => []
  | some r => if r.paginated then [r.typeName, e.responseType] else [r.typeName]

namespace ModuleView

/-- The components that a view mentions. -/
def mentions (v : ModuleView) : List String :=
  Model.refsOf v.fields

/-- A view mentions what its operations or its models refer to. -/
theorem mem_mentions_iff {v : ModuleView} {component : String} :
    component ∈ v.mentions ↔ component ∈ Model.refsOf (v.endpoints.flatMap Endpoint.fields) ∨
      ∃ m ∈ v.models, component ∈ Model.refsOf m.fields := by
  rw [mentions, fields, Model.refsOf, List.flatMap_append, List.mem_append]
  refine or_congr_right ?_
  rw [List.flatMap_assoc, List.mem_flatMap]
  exact Iff.rfl

/-- A view declares a struct of a name. -/
def Declares (v : ModuleView) (name : String) : Prop :=
  ∃ s ∈ v.declared, s.name = name

/-- All structs that a view names are declared. -/
structure Closed (v : ModuleView) : Prop where
  /-- The structs that its operations answer with. -/
  records : ∀ e ∈ v.endpoints, ∀ name ∈ e.recordTypes, v.Declares name
  /-- The structs of the components that its fields mention. -/
  mentions : ∀ component ∈ v.mentions, v.Declares (pascalCase component)

end ModuleView

namespace Resolver

variable {r : Resolver}

/-! ### Turns -/

namespace Adds

variable {depth : Nat} {components found : List String} {models after : Entries Model}

/-- Structs are kept. -/
theorem names_subset (h : r.Adds depth components models after found) :
    models.names ⊆ after.names := by
  have hkeeps : r.Keeps fun others => models.names ⊆ others.names := by
    refine ⟨fun hnew _ _ hothers name hname => ?_⟩
    exact (Entries.mem_names_putSorted _ hnew).mpr (Or.inr (hothers hname))
  exact hkeeps.of_adds h (List.Subset.refl _)

/-- **A component that gives an object has its struct** after the turn. -/
theorem mem_names (h : r.Adds depth components models after found) {component : String}
    (hmem : component ∈ components) (hobject : r.componentObject component depth ≠ .ok none) :
    pascalCase component ∈ after.names := by
  induction h with
  | done => cases hmem
  | skip hhas hrest ih =>
      rcases List.mem_cons.mp hmem with rfl | hmem
      · exact hrest.names_subset hhas
      · exact ih hmem
  | pass hnone hrest ih =>
      rcases List.mem_cons.mp hmem with rfl | hmem
      · exact absurd hnone hobject
      · exact ih hmem
  | take hnew _ _ hrest ih =>
      rcases List.mem_cons.mp hmem with rfl | hmem
      · exact hrest.names_subset ((Entries.mem_names_putSorted _ hnew).mpr (Or.inl rfl))
      · exact ih hmem

/-- **What a new struct mentions is found**, and is left for the next turn. -/
theorem refs_subset (h : r.Adds depth components models after found) {entry : String × Model}
    (hentry : entry ∈ after) : entry ∈ models ∨ Model.refsOf entry.2.fields ⊆ found := by
  induction h with
  | done => exact Or.inl hentry
  | skip hhas hrest ih => exact ih hentry
  | pass hnone hrest ih => exact ih hentry
  | take hnew hobject hfields hrest ih =>
      rcases ih hentry with hentry | hrefs
      · rcases List.mem_cons.mp ((Entries.putSorted_perm _ hnew).mem_iff.mp hentry) with
          rfl | hentry
        · exact Or.inr (List.subset_append_left _ _)
        · exact Or.inl hentry
      · exact Or.inr (List.subset_append_of_subset_right _ hrefs)

/-- **A turn that finds something** has declared the struct of one more component. -/
theorem exists_new (hr : r.strict = false) (h : r.Adds depth components models after found)
    (hfound : found ≠ []) :
    ∃ component, r.document.GivesStruct component ∧
      pascalCase component ∉ models.names ∧ pascalCase component ∈ after.names := by
  induction h with
  | done => exact absurd rfl hfound
  | skip hhas hrest ih => exact ih hfound
  | pass hnone hrest ih => exact ih hfound
  | @take component _ _ _ _ _ _ hnew hobject hfields hrest ih =>
      exact ⟨component, givesStruct_of_componentObject hr hobject, hnew,
        hrest.names_subset ((Entries.mem_names_putSorted _ hnew).mpr (Or.inl rfl))⟩

end Adds

end Resolver

/-! ### All turns -/

namespace Document

/-- The components without a struct. -/
def undeclared (d : Document) (models : Entries Model) : Finset String :=
  d.components.schemas.names.toFinset.filter fun component => pascalCase component ∉ models.names

/-- One struct more leaves fewer components without one. -/
theorem card_undeclared_lt {d : Document} {models after : Entries Model}
    (hkept : models.names ⊆ after.names) {component : String} (hgives : d.GivesStruct component)
    (hnew : pascalCase component ∉ models.names) (hafter : pascalCase component ∈ after.names) :
    (d.undeclared after).card < (d.undeclared models).card := by
  refine Finset.card_lt_card ((Finset.ssubset_iff_of_subset ?_).mpr ⟨component, ?_, ?_⟩)
  · exact Finset.monotone_filter_right _ fun other _ h hmodels => h (hkept hmodels)
  · simp [undeclared, hgives.mem_names, hnew]
  · simp [undeclared, hafter]

/-- What models mention and gives a struct has its struct among them, or is pending. -/
def Awaits (d : Document) (models : Entries Model) (pending : List String) : Prop :=
  ∀ entry ∈ models, ∀ component ∈ Model.refsOf entry.2.fields, d.GivesStruct component →
    pascalCase component ∈ models.names ∨ component ∈ pending

/-- Some components that give a struct have it among models. -/
def Covers (d : Document) (models : Entries Model) (components : List String) : Prop :=
  ∀ component ∈ components, d.GivesStruct component → pascalCase component ∈ models.names

theorem Covers.mono {d : Document} {models after : Entries Model} {components : List String}
    (h : d.Covers models components) (hkept : models.names ⊆ after.names) :
    d.Covers after components :=
  fun component hmem hgives => hkept (h component hmem hgives)

end Document

namespace Resolver

open Document (Awaits Covers)

variable {r : Resolver} {models after : Entries Model} {pending found : List String}

/-- **One turn** with enough room declares what was pending, and what its new structs mention is
pending next. -/
theorem Adds.covers_and_awaits (hr : r.strict = false) {depth : Nat}
    (hroom : ∀ entry ∈ r.document.components.schemas,
      r.document.span [] entry.2 + 1 < r.room depth)
    (hawaits : r.document.Awaits models pending) (h : r.Adds depth pending models after found) :
    r.document.Covers after pending ∧ r.document.Awaits after found := by
  have hcovers : r.document.Covers after pending := fun component hmem hgives =>
    h.mem_names hmem fun hnone =>
      (componentObject_eq_none_iff hr hroom component).mp hnone hgives
  refine ⟨hcovers, fun entry hentry component hmem hgives => ?_⟩
  rcases h.refs_subset hentry with hentry | hrefs
  · rcases hawaits entry hentry component hmem hgives with hnames | hmem
    · exact Or.inl (h.names_subset hnames)
    · exact Or.inl (hcovers component hmem hgives)
  · exact Or.inr (hrefs hmem)

theorem closeModels_nil (room : Nat) (models : Entries Model) :
    r.closeModels room [] models = .ok models := by
  cases room <;> rfl

/-- **What is mentioned and gives a struct is declared in the end**, if there is room for one
turn for each component without a struct, and then for the trails from any of them. -/
theorem covers_of_closeModels (hr : r.strict = false) {reach room : Nat}
    (hreach : ∀ entry ∈ r.document.components.schemas, r.document.span [] entry.2 ≤ reach)
    (hmax : room ≤ r.maxDepth) (hroom : reach + 1 + (r.document.undeclared models).card < room)
    (hawaits : r.document.Awaits models pending)
    (h : r.closeModels room pending models = .ok after) :
    models.names ⊆ after.names ∧ r.document.Covers after pending ∧
      r.document.Awaits after [] := by
  induction room generalizing pending models with
  | zero => exact absurd hroom (Nat.not_lt_zero _)
  | succ room ih =>
      cases pending with
      | nil =>
          cases h
          exact ⟨List.Subset.refl _, by simp [Covers], hawaits⟩
      | cons first rest =>
          obtain ⟨⟨others, found⟩, hothers, h⟩ := Outcome.bind_eq_ok.mp h
          dsimp only at h
          have hadds := adds_of_addComponents_eq_ok hothers
          have hkept := hadds.names_subset
          -- At its depth, a turn has room for one step more than there are turns after it.
          have hdeep : ∀ entry ∈ r.document.components.schemas,
              r.document.span [] entry.2 + 1 < r.room (r.maxDepth - room) := by
            intro entry hentry
            have hspan := hreach entry hentry
            rw [Resolver.room]
            omega
          obtain ⟨hcovers, hfound⟩ := hadds.covers_and_awaits hr hdeep hawaits
          by_cases hempty : found = []
          · subst hempty
            rw [closeModels_nil] at h
            cases h
            exact ⟨hkept, hcovers, hfound⟩
          · obtain ⟨component, hgives, hnew, hafter⟩ := hadds.exists_new hr hempty
            have hcard := Document.card_undeclared_lt hkept hgives hnew hafter
            obtain ⟨hkept', -, hawaits'⟩ := ih (by omega) (by omega) hfound h
            exact ⟨List.Subset.trans hkept hkept', hcovers.mono hkept', hawaits'⟩

/-- **Nothing else is declared**: a new struct has the fields of the object of a component. -/
theorem of_mem_closeModels {room : Nat} (h : r.closeModels room pending models = .ok after) :
    ∀ entry ∈ after, entry ∈ models ∨ ∃ component depth object fields,
      r.componentObject component depth = .ok (some object) ∧
        r.objectFields object .body (depth + 1) = .ok fields ∧
          entry = (pascalCase component,
            ⟨pascalCase component, lineOf? object.description, fields⟩) := by
  have hkeeps : r.Keeps fun others => ∀ entry ∈ others, entry ∈ models ∨
      ∃ component depth object fields, r.componentObject component depth = .ok (some object) ∧
        r.objectFields object .body (depth + 1) = .ok fields ∧
          entry = (pascalCase component,
            ⟨pascalCase component, lineOf? object.description, fields⟩) := by
    refine ⟨fun hnew hobject hfields hothers entry hentry => ?_⟩
    rcases List.mem_cons.mp ((Entries.putSorted_perm _ hnew).mem_iff.mp hentry) with rfl | hentry
    · exact Or.inr ⟨_, _, _, _, hobject, hfields, rfl⟩
    · exact hothers entry hentry
  exact hkeeps.of_closeModels h fun entry hentry => Or.inl hentry

end Resolver

/-! ### Models of a module -/

namespace Model

variable {models : Entries Model} {name : String}

/-- Adding a model adds its name. -/
theorem mem_names_addNew {m : Model} :
    name ∈ (addNew m models).names ↔ name = m.name ∨ name ∈ models.names := by
  rw [addNew]
  split
  · rename_i hhas
    refine (or_iff_right_of_imp ?_).symm
    rintro rfl
    exact Entries.has_eq_true_iff.mp hhas
  · rename_i hnew
    exact Entries.mem_names_putSorted m (mt Entries.has_eq_true_iff.mpr hnew)

/-- The models of a response are its record and its page. -/
theorem mem_names_addResponse {e : Endpoint} :
    name ∈ (addResponse e models).names ↔ name ∈ e.recordTypes ∨ name ∈ models.names := by
  rw [addResponse, Endpoint.recordTypes]
  cases e.response with
  | none => simp
  | some shape =>
      dsimp only
      split
      · rw [mem_names_addNew, mem_names_addNew, page]
        simp only [List.mem_cons, List.not_mem_nil, or_false]
        tauto
      · rw [mem_names_addNew]
        simp

/-- The records of the responses add their names. -/
theorem mem_names_foldl_addResponse {endpoints : List Endpoint} :
    name ∈ (endpoints.foldl (fun models e => addResponse e models) models).names ↔
      (∃ e ∈ endpoints, name ∈ e.recordTypes) ∨ name ∈ models.names := by
  induction endpoints generalizing models with
  | nil => simp
  | cons e rest ih =>
      rw [List.foldl_cons, ih, mem_names_addResponse, List.exists_mem_cons_iff, or_left_comm,
        or_assoc]

/-- What the models of responses mention, the operations do. -/
theorem awaits_foldl_addResponse (d : Document) (endpoints : List Endpoint) :
    d.Awaits (endpoints.foldl (fun models e => addResponse e models) [])
      (endpoints.flatMap refsOfEndpoint) := by
  have hrefs : ∀ entry ∈ endpoints.foldl (fun models e => addResponse e models) [],
      refsOf entry.2.fields ⊆ endpoints.flatMap refsOfEndpoint := by
    refine List.foldlRecOn (motive := fun models : Entries Model => ∀ entry ∈ models,
      refsOf entry.2.fields ⊆ endpoints.flatMap refsOfEndpoint) endpoints _ (by simp)
        fun models hmodels e he entry hentry => ?_
    rcases of_mem_addResponse hentry with
      hentry | ⟨shape, hshape, hmodel⟩ | ⟨shape, hshape, hmodel⟩
    · exact hmodels entry hentry
    · rw [flatMap_refsOfEndpoint, hmodel]
      exact refsOf_mono fun f hf =>
        List.mem_flatMap.mpr ⟨e, he, Endpoint.fields_subset_of_response hshape hf⟩
    · rw [hmodel]
      exact List.nil_subset _
  exact fun entry hentry component hmem _ => Or.inr (hrefs entry hentry hmem)

/-- A pointer mentions what is behind it. -/
theorem refs_boxRecursive_subset {models : List Model} {m : Model} (h : m ∈ boxRecursive models) :
    ∃ plain ∈ models, refsOf m.fields ⊆ refsOf plain.fields := by
  obtain ⟨plain, hplain, hboxed⟩ := of_mem_boxRecursive h
  refine ⟨plain, hplain, fun component hmem => ?_⟩
  obtain ⟨f, hf, hmem⟩ := List.mem_flatMap.mp hmem
  rcases hboxed.of_mem_fields hf with hf | ⟨g, hg, rfl⟩
  · exact List.mem_flatMap.mpr ⟨f, hf, hmem⟩
  · exact List.mem_flatMap.mpr ⟨g, hg, hmem⟩

end Model

namespace Resolver

variable {r : Resolver}

/-- **The models of a module** are the records of its operations, and the structs of the
components that the operations and the models mention. -/
theorem mem_names_models (hr : r.strict = false) {reach : Nat}
    (hreach : ∀ entry ∈ r.document.components.schemas, r.document.span [] entry.2 ≤ reach)
    (hroom : reach + 1 + r.document.components.schemas.names.length < r.maxDepth)
    {components : List String} {endpoints : List Endpoint} {models : List Model}
    (hendpoints : ∀ e ∈ endpoints, Model.RecordNamed components e)
    (h : r.models endpoints = .ok models) :
    (∀ e ∈ endpoints, ∀ name ∈ e.recordTypes, name ∈ models.map (·.name)) ∧
      (∀ component ∈ Model.refsOf (endpoints.flatMap Endpoint.fields),
        r.document.GivesStruct component → pascalCase component ∈ models.map (·.name)) ∧
      ∀ m ∈ models, ∀ component ∈ Model.refsOf m.fields,
        r.document.GivesStruct component → pascalCase component ∈ models.map (·.name) := by
  obtain ⟨entries, hentries, hnamed, rfl⟩ := exists_wellNamed_of_models hendpoints h
  have hcard (models : Entries Model) : (r.document.undeclared models).card ≤
      r.document.components.schemas.names.length :=
    (Finset.card_filter_le _ _).trans (List.toFinset_card_le _)
  obtain ⟨hkept, hroots, hawaits⟩ := covers_of_closeModels hr hreach (Nat.le_refl _)
    (lt_of_le_of_lt (Nat.add_le_add_left (hcard _) _) hroom)
    (Model.awaits_foldl_addResponse _ endpoints) hentries
  rw [Model.flatMap_refsOfEndpoint] at hroots
  rw [Model.map_name_boxRecursive, hnamed.map_name]
  refine ⟨fun e he name hname => ?_, hroots, fun m hm component hmem hgives => ?_⟩
  · exact hkept (Model.mem_names_foldl_addResponse.mpr (Or.inl ⟨e, he, hname⟩))
  · obtain ⟨plain, hplain, hrefs⟩ := Model.refs_boxRecursive_subset hm
    obtain ⟨entry, hentry, rfl⟩ := List.mem_map.mp hplain
    exact (hawaits entry hentry component (hrefs hmem) hgives).resolve_right List.not_mem_nil

/-- The struct of a component: it has the description and the fields of the component's object,
some of them behind pointers. -/
def StructOf (r : Resolver) (component : String) (m : Model) : Prop :=
  ∃ depth object fields, r.componentObject component depth = .ok (some object) ∧
    r.objectFields object .body (depth + 1) = .ok fields ∧
      m.BoxedFrom ⟨pascalCase component, lineOf? object.description, fields⟩

namespace StructOf

variable {component : String} {m : Model}

/-- The struct of a component has its Pascal form as name. -/
theorem name_eq (h : r.StructOf component m) : m.name = pascalCase component := by
  obtain ⟨depth, object, fields, -, -, hboxed⟩ := h
  exact hboxed.name

/-- The component is one of the document. -/
theorem mem_names (h : r.StructOf component m) :
    component ∈ r.document.components.schemas.names := by
  obtain ⟨depth, object, -, hobject, -⟩ := h
  rw [componentObject, component?] at hobject
  cases hget : r.document.components.schemas.get? component with
  | none =>
      rw [hget] at hobject
      cases hobject
  | some schema => exact List.mem_map_of_mem (Document.mem_of_get?_eq_some hget)

end StructOf

/-- **No other models are there**: each is a record, or the struct of a component. -/
theorem exists_source_of_mem_models {components : List String} {endpoints : List Endpoint}
    {models : List Model} (hendpoints : ∀ e ∈ endpoints, Model.RecordNamed components e)
    (h : r.models endpoints = .ok models) :
    ∀ m ∈ models, (∃ e ∈ endpoints, m.name ∈ e.recordTypes) ∨
      ∃ component, r.StructOf component m := by
  obtain ⟨entries, hentries, hnamed, rfl⟩ := exists_wellNamed_of_models hendpoints h
  intro m hm
  obtain ⟨plain, hplain, hboxed⟩ := Model.of_mem_boxRecursive hm
  obtain ⟨entry, hentry, rfl⟩ := List.mem_map.mp hplain
  rcases of_mem_closeModels hentries entry hentry with
    hrecord | ⟨component, depth, object, fields, hobject, hmade, rfl⟩
  · refine Or.inl ?_
    rw [hboxed.name, hnamed.own entry hentry]
    exact (Model.mem_names_foldl_addResponse.mp (List.mem_map_of_mem hrecord)).resolve_right
      List.not_mem_nil
  · exact Or.inr ⟨component, depth, object, fields, hobject, hmade, hboxed⟩

/-- Without strictness, the component gives a struct whatever the room. -/
theorem of_mem_names_models (hr : r.strict = false) {components : List String}
    {endpoints : List Endpoint} {models : List Model}
    (hendpoints : ∀ e ∈ endpoints, Model.RecordNamed components e)
    (h : r.models endpoints = .ok models) {name : String} (hname : name ∈ models.map (·.name)) :
    (∃ e ∈ endpoints, name ∈ e.recordTypes) ∨
      ∃ component, r.document.GivesStruct component ∧ name = pascalCase component := by
  obtain ⟨m, hm, rfl⟩ := List.mem_map.mp hname
  refine (exists_source_of_mem_models hendpoints h m hm).imp_right ?_
  rintro ⟨component, depth, object, fields, hobject, -, hboxed⟩
  exact ⟨component, givesStruct_of_componentObject hr hobject, hboxed.name⟩

end Resolver

/-! ### Structs of a view -/

namespace ModuleView

variable {m : ApiModule} {package : String} {r : Resolver} {v : ModuleView}

/-- **What a view declares**: the request structs of its operations, and the models of the
module. -/
theorem exists_models_of_build (h : build m package r = .ok v) :
    ∃ models, r.endpoints m = .ok v.endpoints ∧ r.models v.endpoints = .ok models ∧
      v.models ⊆ models ∧
      ∀ name, v.Declares name ↔
        name ∈ requestTypes v.endpoints ∨ name ∈ models.map (·.name) := by
  obtain ⟨endpoints, hendpoints, h⟩ := Outcome.bind_eq_ok.mp h
  obtain ⟨models, hmodels, h⟩ := Outcome.bind_eq_ok.mp h
  cases h
  refine ⟨models, hendpoints, hmodels, List.filter_subset_self _, fun name => ⟨?_, ?_⟩⟩
  · rintro ⟨s, hs, rfl⟩
    rcases List.mem_append.mp hs with hs | hs
    · obtain ⟨e, he, rfl⟩ := List.mem_map.mp hs
      exact Or.inl (List.mem_map_of_mem he)
    · exact Or.inr (List.mem_map_of_mem (List.mem_filter.mp hs).1)
  · rintro (htaken | hname)
    · obtain ⟨e, he, rfl⟩ := List.mem_map.mp htaken
      exact ⟨_, List.mem_append_left _ (List.mem_map_of_mem he), rfl⟩
    · obtain ⟨s, hs, rfl⟩ := List.mem_map.mp hname
      by_cases htaken : s.name ∈ requestTypes endpoints
      · obtain ⟨e, he, hname⟩ := List.mem_map.mp htaken
        exact ⟨_, List.mem_append_left _ (List.mem_map_of_mem he), hname⟩
      · refine ⟨s, List.mem_append_right _ (List.mem_filter.mpr ⟨hs, ?_⟩), rfl⟩
        simpa using htaken

/-- **When all structs that a view names are declared.** Under every sufficiently high ceiling
they are, if each component that a field mentions and that gives no struct has the name of a
struct that is declared for something else, and only then. Such a component is a composition
that comes back to itself, or a reference to another component reads as its name. -/
theorem closed_iff (d : Document) :
    ∃ enough, ∀ ceiling, enough ≤ ceiling → ∀ (m : ApiModule) (package : String),
      ∃ v, build m package (d.resolver ceiling) = .ok v ∧
        (v.Closed ↔ ∀ component ∈ v.mentions, ¬ d.GivesStruct component →
          v.Declares (pascalCase component)) ∧
        ∀ component ∈ v.mentions, ¬ d.GivesStruct component →
          d.Misread component ∨ d.Endless component := by
  obtain ⟨reach, hreach⟩ := d.exists_span_le
  refine ⟨reach + 1 + d.components.schemas.names.length + 1,
    fun ceiling hceiling m package => ?_⟩
  obtain ⟨v, hv⟩ := Resolver.exists_build_eq_ok (r := d.resolver ceiling) rfl m package
  obtain ⟨models, hendpoints, hmodels, hsubset, hdeclares⟩ := exists_models_of_build hv
  obtain ⟨hrecords, hroots, hstructs⟩ := Resolver.mem_names_models rfl hreach hceiling
    (Resolver.recordNamed_of_endpointsFrom hendpoints) hmodels
  refine ⟨v, hv, ⟨fun h component hmem _ => h.mentions component hmem, fun h => ⟨?_, ?_⟩⟩, ?_⟩
  · exact fun e he name hname => (hdeclares name).mpr (Or.inr (hrecords e he name hname))
  · intro component hmem
    by_cases hgives : d.GivesStruct component
    · refine (hdeclares _).mpr (Or.inr ?_)
      rcases mem_mentions_iff.mp hmem with hmem | ⟨s, hs, hmem⟩
      · exact hroots component hmem hgives
      · exact hstructs s (hsubset hs) component hmem hgives
    · exact h component hmem hgives
  · intro component hmem hnone
    obtain ⟨f, hf, hmem⟩ := List.mem_flatMap.mp hmem
    have hmentions := (Resolver.fieldInvariant_mentions (d.resolver ceiling)).of_build hv f hf
    exact (hmentions component hmem).misread_or_endless hnone

/-! ### A component composed of itself -/

/-- A document of one operation, `listNodes`, with a parameter that is a component composed of
itself alone. -/
def composedOfItself : Document where
  paths := [("/nodes", {
    get := some {
      tags := ["node"]
      operationId := some "listNodes"
      parameters := [.item {
        name := "filter"
        schema := some (.ofReference "#/components/schemas/Loop") }] } })]
  components := {
    schemas := [("Loop", { allOf := [.ofReference "#/components/schemas/Loop"] })] }

/-- The component comes back to itself through its one branch. -/
theorem not_givesStruct_composedOfItself (component : String) :
    ¬ composedOfItself.GivesStruct component := by
  rintro ⟨s, hget, -, hback⟩
  obtain ⟨rfl, rfl⟩ := Prod.mk.inj (List.mem_singleton.mp (Document.mem_of_get?_eq_some hget))
  have hrefers : composedOfItself.Refers (.ofReference "#/components/schemas/Loop") "Loop"
      { allOf := [.ofReference "#/components/schemas/Loop"] } := ⟨_, rfl, by decide, hget⟩
  exact hback (.branch rfl List.mem_cons_self (.reference hrefers
    (.branch rfl List.mem_cons_self (.again hrefers List.mem_cons_self))))

/-- The operation has a request struct, whose field mentions the component. -/
theorem exists_endpoints_composedOfItself (room : Nat) :
    ∃ e, (composedOfItself.resolver (room + 3)).endpoints
        (ApiModule.ofDocument composedOfItself "node") = .ok [e] ∧
      e.requestType = "ListNodesRequest" ∧ e.recordTypes = [] ∧
        Model.refsOf e.fields = ["Loop"] :=
  ⟨_, rfl, rfl, rfl, rfl⟩

/-- The struct of a component that is composed of itself is named and not declared, however
high the ceiling is. -/
theorem not_forall_closed : ¬ ∀ (d : Document) (name package : String),
    ∃ enough, ∀ ceiling, enough ≤ ceiling → ∀ v,
      build (ApiModule.ofDocument d name) package (d.resolver ceiling) = .ok v → v.Closed := by
  intro hall
  obtain ⟨enough, hclosed⟩ := hall composedOfItself "node" "shop"
  obtain ⟨v, hv⟩ := Resolver.exists_build_eq_ok (r := composedOfItself.resolver (enough + 3)) rfl
    (ApiModule.ofDocument composedOfItself "node") "shop"
  obtain ⟨models, hendpoints, hmodels, -, hdeclares⟩ := exists_models_of_build hv
  have hnamed := Resolver.recordNamed_of_endpointsFrom hendpoints
  obtain ⟨e, hoperation, hrequest, hrecords, hrefs⟩ := exists_endpoints_composedOfItself enough
  have hsingle : v.endpoints = [e] := Except.ok.inj (hendpoints.symm.trans hoperation)
  have hmentioned : "Loop" ∈ v.mentions := by
    rw [mem_mentions_iff, hsingle, List.flatMap_singleton, hrefs]
    exact Or.inl (List.mem_singleton_self _)
  -- The struct would have to be that of the request, a record or another component's.
  rcases (hdeclares _).mp ((hclosed _ (Nat.le_add_right _ _) v hv).mentions _ hmentioned) with
    htaken | hmodel
  · obtain ⟨other, hother, hname⟩ := List.mem_map.mp htaken
    rw [hsingle] at hother
    rw [List.mem_singleton.mp (List.mem_filter.mp hother).1, hrequest] at hname
    exact absurd hname (by decide)
  · rcases Resolver.of_mem_names_models rfl hnamed hmodels hmodel with
      ⟨other, hother, hrecord⟩ | ⟨component, hgives, -⟩
    · rw [hsingle, List.mem_singleton] at hother
      rw [hother, hrecords] at hrecord
      cases hrecord
    · exact not_givesStruct_composedOfItself component hgives

end ModuleView

end ServiceGen
