import ServiceGen.ApiModule
import ServiceGen.Proofs.ModuleNames

/-!
# Membership in Modules

An operation has a name for each of its tags and one for its path (`Route.moduleNames`). The
first of these that counts is its primary module, and all of them are modules that it is a
member of: membership in a canonical name is having that name (`hasOperation_iff`).

## Main results

* `mem_operations_ofDocument_iff`: which operations of a document the module of a canonical
  name has.
* `canonical_of_mem_primaryModules`: the modules that a batch generates have canonical names.
* `modulesDisjoint_iff`: **a batch generates each operation once exactly if** no operation has
  another operation's primary module among its names.
-/

namespace ServiceGen

open ModuleName (Canonical)

/-- The names of an operation: those of its tags, then that of its path. -/
def Route.moduleNames (r : Route) : List String :=
  r.operation.tags.filterMap ModuleName.ofTag? ++ (PathTemplate.moduleName? r.path).toList

/-- The operation as a module of the document holds it. -/
def Route.entry (d : Document) (r : Route) : ModuleOperation :=
  ⟨r.method, r.path, ApiModule.inheritParameters d r.item.parameters r.operation⟩

/-- Inheriting parameters keeps the tags, so an entry has the names of its operation. -/
theorem Route.moduleNames_eq_of_entry_eq {d : Document} {r s : Route}
    (h : r.entry d = s.entry d) : r.moduleNames = s.moduleNames := by
  have hpath : r.path = s.path := congrArg ModuleOperation.path h
  have htags : r.operation.tags = s.operation.tags :=
    congrArg (fun o : ModuleOperation => o.operation.tags) h
  rw [moduleNames, moduleNames, hpath, htags]

namespace ApiModule

/-- **Membership in a module with a canonical name** is having that name. -/
theorem hasOperation_iff {name : String} (h : Canonical name) (r : Route) :
    hasOperation name r.operation r.path = true ↔ name ∈ r.moduleNames := by
  have hpath : (PathTemplate.moduleName? r.path).any (ModuleName.same · name) = true ↔
      PathTemplate.moduleName? r.path = some name := by
    rw [Option.any_eq_true]
    constructor
    · rintro ⟨other, hother, hsame⟩
      rwa [← (ModuleName.same_iff_eq (ModuleName.small_of_moduleName? hother) h.small).mp hsame]
    · intro hname
      exact ⟨name, hname, ModuleName.same_iff.mpr rfl⟩
  have htag : ∀ tag, (ModuleName.same (ModuleName.trimmed tag) name
      || (ModuleName.ofTag? tag).any (ModuleName.same · name)) = true ↔
        ModuleName.ofTag? tag = some name := by
    intro tag
    rw [Bool.or_eq_true, Option.any_eq_true]
    constructor
    · rintro (hsame | ⟨other, hother, hsame⟩)
      · exact ModuleName.ofTag?_of_same h hsame
      · have hsmall := (ModuleName.canonical_of_ofTag? hother).small
        rwa [← (ModuleName.same_iff_eq hsmall h.small).mp hsame]
    · intro hname
      exact Or.inr ⟨name, hname, ModuleName.same_iff.mpr rfl⟩
  simp only [hasOperation, ModuleName.trimmed_of_isModuleSafe h.safe, Bool.or_eq_true, hpath,
    List.any_eq_true, htag, Route.moduleNames, List.mem_append, List.mem_filterMap,
    Option.mem_toList]

/-- The operations of a module are entries of the document's operations. -/
theorem mem_operations_ofDocument {d : Document} {name : String} {o : ModuleOperation} :
    o ∈ (ofDocument d name).operations ↔
      ∃ r ∈ d.routes, hasOperation name r.operation r.path = true ∧ r.entry d = o := by
  rw [ofDocument, List.mem_map]
  constructor
  · rintro ⟨r, hr, ho⟩
    rw [List.mem_filter] at hr
    exact ⟨r, hr.1, hr.2, ho⟩
  · rintro ⟨r, hr, hname, ho⟩
    exact ⟨r, List.mem_filter.mpr ⟨hr, hname⟩, ho⟩

/-- **The operations of a module with a canonical name** are those of the document that have
the name. -/
theorem mem_operations_ofDocument_iff {d : Document} {name : String} (h : Canonical name)
    {r : Route} (hr : r ∈ d.routes) :
    r.entry d ∈ (ofDocument d name).operations ↔ name ∈ r.moduleNames := by
  rw [mem_operations_ofDocument]
  constructor
  · rintro ⟨s, -, hname, hentry⟩
    rw [← Route.moduleNames_eq_of_entry_eq hentry]
    exact (hasOperation_iff h s).mp hname
  · intro hname
    exact ⟨r, hr, (hasOperation_iff h r).mpr hname, rfl⟩

end ApiModule

namespace Document

/-! ### Primary modules -/

/-- The primary module of an operation is the first of its names, where that can stand as it
is. -/
theorem primaryModule?_eq_some_iff {r : Route} {name : String} :
    primaryModule? r = some name ↔
      (r.operation.tags.findSome? ModuleName.ofTag?).or (PathTemplate.moduleName? r.path)
        = some name ∧ isModuleSafe name = true := by
  rw [primaryModule?]
  split
  · rename_i first hfirst
    rw [hfirst]
    split
    · rename_i hsafe
      constructor
      · rintro ⟨⟩
        exact ⟨rfl, hsafe⟩
      · exact And.left
    · rename_i hsafe
      constructor
      · rintro ⟨⟩
      · rintro ⟨⟨⟩, hname⟩
        exact absurd hname hsafe
  · rename_i hnone
    rw [hnone]
    simp

/-- The primary module of an operation is among its names. -/
theorem mem_moduleNames_of_primaryModule? {r : Route} {name : String}
    (h : primaryModule? r = some name) : name ∈ r.moduleNames := by
  obtain ⟨hname, -⟩ := primaryModule?_eq_some_iff.mp h
  rw [Route.moduleNames, List.mem_append, List.mem_filterMap, Option.mem_toList]
  rcases Option.or_eq_some_iff.mp hname with htag | ⟨-, hpath⟩
  · exact Or.inl (List.exists_of_findSome?_eq_some htag)
  · exact Or.inr hpath

/-- The primary module of an operation has a canonical name. -/
theorem canonical_of_primaryModule? {r : Route} {name : String}
    (h : primaryModule? r = some name) : Canonical name := by
  obtain ⟨hname, hsafe⟩ := primaryModule?_eq_some_iff.mp h
  rcases Option.or_eq_some_iff.mp hname with htag | ⟨-, hpath⟩
  · obtain ⟨tag, -, htag⟩ := List.exists_of_findSome?_eq_some htag
    exact ModuleName.canonical_of_ofTag? htag
  · exact ModuleName.canonical_of_moduleName? hpath hsafe

/-- An operation with a canonical name has a primary module. -/
theorem exists_primaryModule? {r : Route} {name : String} (h : Canonical name)
    (hname : name ∈ r.moduleNames) : ∃ primary, primaryModule? r = some primary := by
  cases htag : r.operation.tags.findSome? ModuleName.ofTag? with
  | some primary =>
      obtain ⟨tag, -, hprimary⟩ := List.exists_of_findSome?_eq_some htag
      refine ⟨primary, primaryModule?_eq_some_iff.mpr ⟨by rw [htag, Option.some_or], ?_⟩⟩
      exact (ModuleName.canonical_of_ofTag? hprimary).safe
  | none =>
      -- No tag has a name, so the name is that of the path.
      rw [Route.moduleNames, List.mem_append, List.mem_filterMap, Option.mem_toList] at hname
      rcases hname with ⟨tag, hmem, hprimary⟩ | hpath
      · rw [List.findSome?_eq_none_iff] at htag
        rw [htag tag hmem] at hprimary
        cases hprimary
      · refine ⟨name, primaryModule?_eq_some_iff.mpr ⟨?_, h.safe⟩⟩
        rw [htag, Option.none_or, hpath]

/-- The modules of a batch are the primary modules of the operations. -/
theorem mem_primaryModules {d : Document} {name : String} :
    name ∈ d.primaryModules ↔ ∃ r ∈ d.routes, primaryModule? r = some name := by
  rw [primaryModules, mem_sortedNames, List.mem_filterMap]

/-- **The modules of a batch have canonical names.** -/
theorem canonical_of_mem_primaryModules {d : Document} {name : String}
    (h : name ∈ d.primaryModules) : Canonical name := by
  obtain ⟨r, -, hr⟩ := mem_primaryModules.mp h
  exact canonical_of_primaryModule? hr

/-! ### Operations in several modules of a batch -/

/-- Each operation of a document is in at most one module of its batch. -/
def ModulesDisjoint (d : Document) : Prop :=
  ∀ r ∈ d.routes, ∀ a ∈ d.primaryModules, ∀ b ∈ d.primaryModules,
    r.entry d ∈ (ApiModule.ofDocument d a).operations →
      r.entry d ∈ (ApiModule.ofDocument d b).operations → a = b

/-- **A batch generates each operation under one module only exactly if** every name of an
operation that is a module of the batch is the operation's own primary module. -/
theorem modulesDisjoint_iff (d : Document) :
    d.ModulesDisjoint ↔
      ∀ r ∈ d.routes, ∀ name ∈ r.moduleNames, name ∈ d.primaryModules →
        primaryModule? r = some name := by
  constructor
  · intro hunique r hr name hname hbatch
    have hcanonical := canonical_of_mem_primaryModules hbatch
    obtain ⟨primary, hprimary⟩ := exists_primaryModule? hcanonical hname
    have hown : r.entry d ∈ (ApiModule.ofDocument d primary).operations :=
      (ApiModule.mem_operations_ofDocument_iff (canonical_of_primaryModule? hprimary) hr).mpr
        (mem_moduleNames_of_primaryModule? hprimary)
    have hother : r.entry d ∈ (ApiModule.ofDocument d name).operations :=
      (ApiModule.mem_operations_ofDocument_iff hcanonical hr).mpr hname
    have heq := hunique r hr primary (mem_primaryModules.mpr ⟨r, hr, hprimary⟩) name hbatch
      hown hother
    rw [hprimary, heq]
  · intro hprimary r hr a ha b hb hina hinb
    have hnamea := (ApiModule.mem_operations_ofDocument_iff
      (canonical_of_mem_primaryModules ha) hr).mp hina
    have hnameb := (ApiModule.mem_operations_ofDocument_iff
      (canonical_of_mem_primaryModules hb) hr).mp hinb
    have hpa := hprimary r hr a hnamea ha
    have hpb := hprimary r hr b hnameb hb
    exact Option.some.inj (hpa.symm.trans hpb)

/-- A document of two operations: the tags of the first are `a` and `b`, the tag of the second
is `b`. -/
def crossTagged : Document where
  paths := [
    ("/x", { get := some { tags := ["a", "b"] } }),
    ("/y", { get := some { tags := ["b"] } })]

/-- The batch of `crossTagged` generates its first operation twice: in module `a`, which is the
primary module of it, and in module `b`, which is that of the second operation. -/
theorem not_forall_modulesDisjoint : ¬ ∀ d : Document, d.ModulesDisjoint := by
  intro hunique
  have hbatch : crossTagged.primaryModules = ["a", "b"] := by decide
  have hmem := List.head_mem (l := crossTagged.routes) (by decide)
  have hin : ∀ name ∈ ["a", "b"],
      (crossTagged.routes.head (by decide)).entry crossTagged ∈
        (ApiModule.ofDocument crossTagged name).operations := by
    intro name hname
    refine ApiModule.mem_operations_ofDocument.mpr ⟨_, hmem, ?_, rfl⟩
    revert name
    decide
  have heq := hunique crossTagged _ hmem "a" (by rw [hbatch]; decide) "b"
    (by rw [hbatch]; decide) (hin "a" (by decide)) (hin "b" (by decide))
  exact absurd heq (by decide)

end Document

end ServiceGen
