import ServiceGen.Proofs.Batches
import ServiceGen.Proofs.DeclaredModules
import ServiceGen.Proofs.ViewSources

/-!
# Coverage of a Batch

Three parts of the generator name modules: a batch asks for the first name of each operation,
the names of a document are listed from its paths and tags, and a module takes the operations
whose tags or path compare with its name. An operation is left out of a batch only if none of
its tags has a name and its path has none that can stand as it is (`Route.HasModule`).

## Main results

* `hasModule_iff`: **which operations a batch covers.**
* `BatchRun.tried`: each module of a batch fails or is reported.
* `batch_coverage`: a batch never fails for want of operations, and drops none that it covers.
-/

namespace ServiceGen

open ModuleName (Canonical)

/-- An operation has a module of its own: one of its tags has a name, or its path has one that
can stand as it is. -/
def Route.HasModule (r : Route) : Prop :=
  (∃ tag ∈ r.operation.tags, (ModuleName.ofTag? tag).isSome = true) ∨
    (PathTemplate.moduleName? r.path).any isModuleSafe = true

/-- **An operation has a module of its own** exactly if one of its names is canonical. -/
theorem Route.hasModule_iff_exists_canonical {r : Route} :
    r.HasModule ↔ ∃ name ∈ r.moduleNames, Canonical name := by
  simp only [HasModule, moduleNames, List.mem_append, List.mem_filterMap, Option.mem_toList,
    Option.isSome_iff_exists, Option.any_eq_true]
  constructor
  · rintro (⟨tag, htag, name, hname⟩ | ⟨name, hname, hsafe⟩)
    · exact ⟨name, Or.inl ⟨tag, htag, hname⟩, ModuleName.canonical_of_ofTag? hname⟩
    · exact ⟨name, Or.inr hname, ModuleName.canonical_of_moduleName? hname hsafe⟩
  · rintro ⟨name, ⟨tag, htag, hname⟩ | hname, hcanonical⟩
    · exact Or.inl ⟨tag, htag, name, hname⟩
    · exact Or.inr ⟨name, hname, hcanonical.safe⟩

/-- An operation has a module of its own exactly if it has a primary module. -/
theorem Route.hasModule_iff_exists_primaryModule {r : Route} :
    r.HasModule ↔ ∃ name, Document.primaryModule? r = some name := by
  rw [hasModule_iff_exists_canonical]
  constructor
  · rintro ⟨name, hname, hcanonical⟩
    exact Document.exists_primaryModule? hcanonical hname
  · rintro ⟨name, hname⟩
    exact ⟨name, Document.mem_moduleNames_of_primaryModule? hname,
      Document.canonical_of_primaryModule? hname⟩

namespace Document

variable {d : Document}

/-! ### Names of a document -/

/-- The names of a document are those of its paths that can stand as they are, and those of its
tags. -/
theorem mem_moduleNames_iff {name : String} :
    name ∈ d.moduleNames ↔
      (∃ path ∈ d.paths.names, PathTemplate.moduleName? path = some name ∧
        isModuleSafe name = true) ∨
      (∃ r ∈ d.routes, ∃ tag ∈ r.operation.tags, ModuleName.ofTag? tag = some name) ∨
      ∃ tag ∈ d.tags, ModuleName.ofTag? tag.name = some name := by
  simp only [moduleNames, mem_sortedNames, List.mem_append, List.mem_filter, List.mem_filterMap,
    List.mem_flatMap, ← exists_and_right, and_assoc, or_assoc]

/-- **All names of a document are canonical.** -/
theorem canonical_of_mem_moduleNames {name : String} (h : name ∈ d.moduleNames) :
    Canonical name := by
  rcases mem_moduleNames_iff.mp h with
    ⟨path, -, hname, hsafe⟩ | ⟨r, -, tag, -, hname⟩ | ⟨tag, -, hname⟩
  · exact ModuleName.canonical_of_moduleName? hname hsafe
  · exact ModuleName.canonical_of_ofTag? hname
  · exact ModuleName.canonical_of_ofTag? hname

/-- An operation stands under a path of the document. -/
theorem path_mem_names_of_mem_routes {r : Route} (h : r ∈ d.routes) : r.path ∈ d.paths.names := by
  obtain ⟨⟨path, item⟩, hitem, hr⟩ := List.mem_flatMap.mp h
  obtain ⟨⟨method, operation⟩, -, rfl⟩ := List.mem_map.mp hr
  exact List.mem_map_of_mem hitem

/-- A canonical name of an operation is one of the document. -/
theorem mem_moduleNames_of_mem_routes {r : Route} (hr : r ∈ d.routes) {name : String}
    (hname : name ∈ r.moduleNames) (hcanonical : Canonical name) : name ∈ d.moduleNames := by
  rw [Route.moduleNames, List.mem_append, List.mem_filterMap, Option.mem_toList] at hname
  rw [mem_moduleNames_iff]
  rcases hname with ⟨tag, htag, hname⟩ | hname
  · exact Or.inr (Or.inl ⟨r, hr, tag, htag, hname⟩)
  · exact Or.inl ⟨r.path, path_mem_names_of_mem_routes hr, hname, hcanonical.safe⟩

/-- **The modules of a batch are named by the document.** -/
theorem primaryModules_subset_moduleNames (d : Document) : d.primaryModules ⊆ d.moduleNames := by
  intro name hname
  obtain ⟨r, hr, hprimary⟩ := mem_primaryModules.mp hname
  exact mem_moduleNames_of_mem_routes hr (mem_moduleNames_of_primaryModule? hprimary)
    (canonical_of_primaryModule? hprimary)

/-! ### Operations of a batch -/

/-- A module of a batch has the operations that it is the primary module of. -/
theorem entry_mem_operations_of_primaryModule? {r : Route} (hr : r ∈ d.routes) {name : String}
    (h : primaryModule? r = some name) : r.entry d ∈ (ApiModule.ofDocument d name).operations :=
  (ApiModule.mem_operations_ofDocument_iff (canonical_of_primaryModule? h) hr).mpr
    (mem_moduleNames_of_primaryModule? h)

/-- **Which operations a batch covers**: those with a module of their own. -/
theorem hasModule_iff {r : Route} (hr : r ∈ d.routes) :
    r.HasModule ↔ ∃ name ∈ d.primaryModules,
      r.entry d ∈ (ApiModule.ofDocument d name).operations := by
  constructor
  · intro h
    obtain ⟨name, hname⟩ := Route.hasModule_iff_exists_primaryModule.mp h
    exact ⟨name, mem_primaryModules.mpr ⟨r, hr, hname⟩,
      entry_mem_operations_of_primaryModule? hr hname⟩
  · rintro ⟨name, hname, hentry⟩
    have hcanonical := canonical_of_mem_primaryModules hname
    exact Route.hasModule_iff_exists_canonical.mpr
      ⟨name, (ApiModule.mem_operations_ofDocument_iff hcanonical hr).mp hentry, hcanonical⟩

/-- A module of a batch has operations. -/
theorem isEmpty_of_mem_primaryModules {name : String} (h : name ∈ d.primaryModules) :
    (ApiModule.ofDocument d name).isEmpty = false := by
  obtain ⟨r, hr, hprimary⟩ := mem_primaryModules.mp h
  rw [ApiModule.isEmpty, List.isEmpty_eq_false_iff_exists_mem]
  exact ⟨_, entry_mem_operations_of_primaryModule? hr hprimary⟩

end Document

namespace Generator

variable {g : Generator} {d : Document} {names : List String} {batch : BatchReport}
  {s t : Session}

/-! ### Runs of a batch -/

/-- **Each module of a batch fails or is reported**, as a run for it does. -/
theorem BatchRun.tried (h : BatchRun g d names s batch t) {name : String} (hname : name ∈ names) :
    (∃ failure, (name, failure) ∈ batch.failures ∧ ∃ before after,
        (g.generateModule (some d) name).runOn before = (.error failure, after)) ∨
      ∃ report ∈ batch.reports, ∃ before after,
        (g.generateModule (some d) name).runOn before = (.ok report, after) := by
  induction h with
  | done s => cases hname
  | report hrun hrest ih =>
      rcases List.mem_cons.mp hname with rfl | hname
      · exact Or.inr ⟨_, List.mem_cons_self, _, _, hrun⟩
      · rcases ih hname with hfailed | ⟨report, hreport, hfound⟩
        · exact Or.inl hfailed
        · exact Or.inr ⟨report, List.mem_cons_of_mem _ hreport, hfound⟩
  | failure hrun hrest ih =>
      rcases List.mem_cons.mp hname with rfl | hname
      · exact Or.inl ⟨_, List.mem_cons_self, _, _, hrun⟩
      · rcases ih hname with ⟨failure, hfailure, hfound⟩ | hreported
        · exact Or.inl ⟨failure, List.mem_cons_of_mem _ hfailure, hfound⟩
        · exact Or.inr hreported

/-- The steps to a view of a given document. -/
theorem view_some_eq (g : Generator) (d : Document) (name : String) :
    g.view (some d) name =
      if Layout.isReserved name then .error (.reservedModule name)
      else if (ApiModule.ofDocument d name).isEmpty then .error (.noOperations name)
      else ModuleView.build (ApiModule.ofDocument d name) g.options.package (g.resolver d) :=
  g.view_eq (some d) name

/-- Only a module without operations fails for want of them. -/
theorem isEmpty_of_generateModule_eq_error {name other : String}
    (h : Stateful.runIn (g.generateModule (some d) name) s = (.error (.noOperations other), t)) :
    (ApiModule.ofDocument d name).isEmpty = true := by
  rcases of_generateModule_eq_error h with hview | houtput
  · rw [view_some_eq] at hview
    split at hview
    · cases hview
    · split at hview
      · assumption
      · -- A view of operations fails on a reference only.
        obtain ⟨-, link, -, hlink⟩ := Resolver.of_build_eq_error hview
        cases hlink
  · exact absurd houtput id

/-- The view of a module of a document is built from its operations. -/
theorem build_of_view_some_eq_ok {name : String} {view : ModuleView}
    (h : g.view (some d) name = .ok view) :
    ModuleView.build (ApiModule.ofDocument d name) g.options.package (g.resolver d) = .ok view := by
  rw [view_some_eq] at h
  split at h
  · cases h
  · split at h
    · cases h
    · exact h

/-- A batch accounts for an operation of a module: a run for the module fails, and it is listed
with this failure, or one succeeds, and the batch has its report, of the files that are rendered
from a view that presents the operation. -/
def Accounts (g : Generator) (d : Document) (batch : BatchReport) (name : String)
    (o : ModuleOperation) : Prop :=
  (∃ failure, (name, failure) ∈ batch.failures ∧ ∃ before after,
      (g.generateModule (some d) name).runOn before = (.error failure, after)) ∨
    ∃ report ∈ batch.reports, ∃ view rendered before after,
      (g.generateModule (some d) name).runOn before = (.ok report, after) ∧
        g.view (some d) name = .ok view ∧ report.module = view.module ∧
        g.renderFiles view = .ok rendered ∧ report.files.map (·.1) = rendered.map (·.1) ∧
        ∃ e ∈ view.endpoints, e.Presents o

/-- **A batch accounts for all operations of its modules.** -/
theorem BatchRun.accounts (h : BatchRun g d names s batch t) {name : String}
    (hname : name ∈ names) {o : ModuleOperation}
    (ho : o ∈ (ApiModule.ofDocument d name).operations) : g.Accounts d batch name o := by
  rcases h.tried hname with hfailed | ⟨report, hreport, before, after, hrun⟩
  · exact Or.inl hfailed
  · obtain ⟨view, rendered, hview, hmodule, hrendered, hfiles⟩ :=
      exists_view_of_generateModule_eq_ok hrun
    obtain ⟨hlength, hpresents⟩ := List.forall₂_iff_get.mp
      (ModuleView.forall₂_presents (build_of_view_some_eq_ok hview))
    obtain ⟨i, rfl⟩ := List.get_of_mem ho
    have hi : i < view.endpoints.length := hlength ▸ i.isLt
    exact Or.inr ⟨report, hreport, view, rendered, before, after, hrun, hview, hmodule, hrendered,
      hfiles, _, List.get_mem _ ⟨i, hi⟩, hpresents i i.isLt hi⟩

/-- **Coverage of a batch.** The modules of a batch are among those that the document names, and
the names of both can stand as they are. An operation is in some module of the batch exactly if
it has a module of its own. So no module of a batch fails for want of operations, and the batch
accounts for each operation that has a module. -/
theorem batch_coverage (d : Document) :
    d.primaryModules ⊆ d.moduleNames ∧
    (∀ name ∈ d.primaryModules ++ d.moduleNames, isModuleSafe name = true) ∧
    (∀ r ∈ d.routes, r.HasModule ↔ ∃ name ∈ d.primaryModules,
      r.entry d ∈ (ApiModule.ofDocument d name).operations) ∧
    ∀ (g : Generator) (batch : BatchReport) (s t : Session),
      (g.generateAll d).runOn s = (.ok batch, t) →
        (∀ entry ∈ batch.failures, ∀ name, entry.2 ≠ .noOperations name) ∧
        ∀ r ∈ d.routes, r.HasModule → ∃ name ∈ d.primaryModules,
          r.entry d ∈ (ApiModule.ofDocument d name).operations ∧
            g.Accounts d batch name (r.entry d) := by
  have hsubset := d.primaryModules_subset_moduleNames
  refine ⟨hsubset, fun name hname => ?_, fun r hr => Document.hasModule_iff hr,
    fun g batch s t hrun => ?_⟩
  · have hmem : name ∈ d.moduleNames := (List.mem_append.mp hname).elim (@hsubset name) id
    exact (Document.canonical_of_mem_moduleNames hmem).safe
  · obtain ⟨support, s', -, hbatch⟩ := of_generateAll_eq_ok hrun
    constructor
    · rintro ⟨name, failure⟩ hentry other rfl
      obtain ⟨hname, before, after, hfailed⟩ := hbatch.exists_run_of_mem_failures hentry
      have hempty := isEmpty_of_generateModule_eq_error hfailed
      rw [Document.isEmpty_of_mem_primaryModules hname] at hempty
      cases hempty
    · intro r hr hmodule
      obtain ⟨name, hname, hentry⟩ := (Document.hasModule_iff hr).mp hmodule
      exact ⟨name, hname, hentry, hbatch.accounts hname hentry⟩

/-- A document of two operations: the first has a tag outside ASCII and one with a space, and the
second has no name. -/
def petStore : Document where
  paths := [
    ("/x", { get := some { tags := ["Büro", " Pet Store "] } }),
    ("/{id}", { get := some {} })]

/-- A batch of `petStore` reports one module, and accounts for the operation under the name of its
second tag. -/
theorem batch_coverage_petStore :
    ∃ batch t, ((blank ".").generateAll petStore).runOn { workspace := {}, support := some {} } =
        (.ok batch, t) ∧
      batch.reports.map (·.module) = ["pet_store"] ∧
      (∀ entry ∈ batch.failures, ∀ name, entry.2 ≠ .noOperations name) ∧
      ∃ r ∈ petStore.routes, r.HasModule ∧ ∃ name ∈ petStore.primaryModules,
        r.entry petStore ∈ (ApiModule.ofDocument petStore name).operations ∧
          (blank ".").Accounts petStore batch name (r.entry petStore) := by
  have hall : (((blank ".").generateAll petStore).runOn
      { workspace := {}, support := some {} }).1.toOption.any
        (·.reports.map (·.module) == ["pet_store"]) = true := by
    decide +kernel
  obtain ⟨batch, t, hrun, hreports⟩ := Generation.exists_runOn_of_any hall
  have hsome : petStore.routes ≠ [] := by decide
  have hmem := List.head_mem hsome
  have hmodule : (petStore.routes.head hsome).HasModule :=
    Or.inl ⟨" Pet Store ", List.mem_cons_of_mem _ List.mem_cons_self, by decide +kernel⟩
  obtain ⟨hnames, hoperations⟩ := (batch_coverage petStore).2.2.2 (blank ".") batch _ t hrun
  exact ⟨batch, t, hrun, eq_of_beq hreports, hnames, _, hmem, hmodule, hoperations _ hmem hmodule⟩

end Generator

end ServiceGen
