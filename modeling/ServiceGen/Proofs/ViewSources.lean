import ServiceGen.Proofs.MethodNames
import ServiceGen.Analysis.ModuleView

/-!
# Where a View Comes From

A view has one endpoint for each operation of its module, in their order. Most of an endpoint is
found by following references. Its path, its line of documentation, its error codes and its name
are those of the operation alone (`Presents`), whatever the resolver is.

The error codes of a view are those that the module and its operations declare. Of the declarations
with the same name one counts (`counted`), and each that counts is a variant (`mem_errors_iff`).
-/

namespace ServiceGen

/-! ### Endpoints -/

/-- What an endpoint has of its operation. -/
structure Endpoint.Presents (e : Endpoint) (o : ModuleOperation) : Prop where
  /-- Its path is that of the operation. -/
  path : e.path = o.path
  /-- Its line of documentation describes the operation. -/
  doc : e.doc = Resolver.docOf (String.ofList (Text.asciiUpper o.method.toList)) o.path o.operation
  /-- Its error codes are those of the operation. -/
  errorCodes : e.errorCodes = o.operation.errorCodes
  /-- Its name is chosen for the operation. -/
  chosen : ∃ used, Chosen used o.baseName o.path e.methodName

/-- **Each operation is presented**, in order. -/
theorem Resolver.forall₂_presents {r : Resolver} {used : List String}
    {operations : List ModuleOperation} {endpoints : List Endpoint}
    (h : r.endpointsFrom used operations = .ok endpoints) :
    List.Forall₂ (fun o e => Endpoint.Presents e o) operations endpoints := by
  induction operations generalizing used endpoints with
  | nil =>
      cases h
      exact .nil
  | cons o rest ih =>
      rw [endpointsFrom] at h
      obtain ⟨first, hfirst, h⟩ := Outcome.bind_eq_ok.mp h
      obtain ⟨others, hothers, h⟩ := Outcome.bind_eq_ok.mp h
      cases h
      refine .cons ?_ (ih hothers)
      obtain ⟨⟨inPath, queryParams⟩, -, hfirst⟩ := Outcome.bind_eq_ok.mp hfirst
      obtain ⟨pathParams, -, hfirst⟩ := Outcome.bind_eq_ok.mp hfirst
      obtain ⟨bodyFields, -, hfirst⟩ := Outcome.bind_eq_ok.mp hfirst
      obtain ⟨response, -, hfirst⟩ := Outcome.bind_eq_ok.mp hfirst
      cases hfirst
      exact ⟨rfl, rfl, rfl, used, chosen_uniqueName _ _ _⟩

/-- The endpoints have the error codes of the operations. -/
theorem Endpoint.flatMap_errorCodes {operations : List ModuleOperation} {endpoints : List Endpoint}
    (h : List.Forall₂ (fun o e => Presents e o) operations endpoints) :
    endpoints.flatMap (·.errorCodes) = operations.flatMap (·.operation.errorCodes) := by
  induction h with
  | nil => rfl
  | cons hfirst _ ih => rw [List.flatMap_cons, List.flatMap_cons, hfirst.errorCodes, ih]

/-! ### Error codes -/

namespace ErrorVariant

/-- The declarations that count: the first for each name that has words. -/
def counted (seen : List String) : List ErrorCode → List ErrorCode
  | [] => []
  | e :: rest =>
    if (pascalCase e.name).isEmpty || seen.contains (pascalCase e.name) then counted seen rest
    else e :: counted (pascalCase e.name :: seen) rest

/-- The distinct codes are those counted, each under its Pascal name. -/
theorem distinct_eq (seen : List String) (codes : List ErrorCode) :
    distinct seen codes =
      (counted seen codes).map fun e => ofDeclaration (pascalCase e.name) e := by
  induction codes generalizing seen with
  | nil => rfl
  | cons e rest ih =>
      rw [distinct, counted]
      split
      · exact ih seen
      · rw [ih, List.map_cons]

/-- Every counted code was given. -/
theorem counted_subset (seen : List String) (codes : List ErrorCode) :
    counted seen codes ⊆ codes := by
  induction codes generalizing seen with
  | nil => exact List.Subset.refl _
  | cons e rest ih =>
      rw [counted]
      split
      · exact List.subset_cons_of_subset e (ih seen)
      · exact List.cons_subset_cons e (ih _)

end ErrorVariant

/-- The error codes that are declared for a module: its own, then those of its operations. -/
def ApiModule.declaredCodes (m : ApiModule) : List ErrorCode :=
  m.errorCodes ++ m.operations.flatMap (·.operation.errorCodes)

/-! ### Views -/

namespace ModuleView

variable {m : ApiModule} {package : String} {r : Resolver} {v : ModuleView}

/-- The endpoints of a view present the operations of its module. -/
theorem forall₂_presents (h : build m package r = .ok v) :
    List.Forall₂ (fun o e => Endpoint.Presents e o) m.operations v.endpoints := by
  obtain ⟨endpoints, hendpoints, h⟩ := Outcome.bind_eq_ok.mp h
  obtain ⟨models, -, h⟩ := Outcome.bind_eq_ok.mp h
  cases h
  exact Resolver.forall₂_presents hendpoints

/-- Each endpoint of a view presents some operation of its module. -/
theorem exists_presents (h : build m package r = .ok v) {e : Endpoint} (he : e ∈ v.endpoints) :
    ∃ o ∈ m.operations, e.Presents o := by
  obtain ⟨hlength, hget⟩ := List.forall₂_iff_get.mp (forall₂_presents h)
  obtain ⟨i, rfl⟩ := List.get_of_mem he
  have hi : i < m.operations.length := by
    rw [hlength]
    exact i.isLt
  exact ⟨_, List.get_mem _ _, hget i hi i.isLt⟩

/-- The paths of a view are those of the operations. -/
theorem map_path_of_build (h : build m package r = .ok v) :
    m.operations.map (·.path) = v.endpoints.map (·.path) := by
  rw [← List.forall₂_eq_eq_eq, List.forall₂_map_left_iff, List.forall₂_map_right_iff]
  exact (forall₂_presents h).imp fun o e hpresents => hpresents.path.symm

/-- **The error codes of a view** are the declarations that count, or else the common ones. -/
theorem mem_errors_iff (h : build m package r = .ok v) {variant : ErrorVariant} :
    variant ∈ v.errors ↔
      (∃ e ∈ ErrorVariant.counted [] m.declaredCodes,
        variant = ErrorVariant.ofDeclaration (pascalCase e.name) e) ∨
      ErrorVariant.counted [] m.declaredCodes = [] ∧ variant ∈ ErrorVariant.common := by
  have hcodes : m.errorCodes ++ v.endpoints.flatMap (·.errorCodes) = m.declaredCodes := by
    rw [ApiModule.declaredCodes, Endpoint.flatMap_errorCodes (forall₂_presents h)]
  have herrors : v.errors = ErrorVariant.ofModule m.errorCodes v.endpoints := by
    obtain ⟨endpoints, -, h⟩ := Outcome.bind_eq_ok.mp h
    obtain ⟨models, -, h⟩ := Outcome.bind_eq_ok.mp h
    cases h
    rfl
  rw [herrors, ErrorVariant.ofModule, List.mem_mergeSort, hcodes, ErrorVariant.distinct_eq,
    List.isEmpty_map]
  cases ErrorVariant.counted [] m.declaredCodes with
  | nil => simp
  | cons first rest => simp [eq_comm]

end ModuleView

end ServiceGen
