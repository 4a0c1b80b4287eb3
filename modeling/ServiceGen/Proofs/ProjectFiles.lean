import ServiceGen.Proofs.FileWork
import ServiceGen.Proofs.Stems

/-!
# Files of a Project

Where the files of a project stand below its root: those of its modules, and those that the
generator keeps for itself. The two kinds have nothing in common as long as no module has a
reserved name (`Layout.not_mem_fileNames`).
-/

namespace ServiceGen

open Workspace (Inside Plain inside_joinPath)

namespace Layout

/-! ### Names -/

/-- The file that wires the modules together, seen from the root. -/
def wireNames : List String :=
  ["src", "wire.rs"]

/-- An index file, seen from the root. -/
def indexNames (dir : String) : List String :=
  ["src", dir, "mod.rs"]

/-- A helper of the handlers, or their index, seen from the root. -/
def helperNames (file : String) : List String :=
  ["src", "handlers", file]

/-- The files of a module with a stem, seen from the root. -/
def fileNames (stem : String) (withTests : Bool) : List (List String) :=
  let sources := moduleDirs.map fun dir => ["src", dir, stem ++ ".rs"]
  let tests := ["_logic.rs", "_handlers.rs"].map fun ending => ["tests", stem ++ ending]
  if withTests then sources ++ tests else sources

/-- The files that the generator keeps for itself, seen from the root. -/
def ownNames : List (List String) :=
  wireNames :: moduleDirs.map indexNames ++
    ["context.rs", "response.rs", "helpers.rs"].map helperNames

/-- **The files of a module are not the generator's own**, if its stem is none of the names
that these have. -/
theorem not_mem_fileNames {stem : String} (hstem : stem ∉ ownedNames) {withTests : Bool}
    {names : List String} (h : names ∈ fileNames stem withTests) : names ∉ ownNames := by
  have hnames : (∃ dir, names = ["src", dir, stem ++ ".rs"]) ∨
      ∃ file, names = ["tests", file] := by
    cases withTests with
    | false =>
        obtain ⟨dir, -, rfl⟩ := List.mem_map.mp h
        exact Or.inl ⟨dir, rfl⟩
    | true =>
        rcases List.mem_append.mp h with h | h
        · obtain ⟨dir, -, rfl⟩ := List.mem_map.mp h
          exact Or.inl ⟨dir, rfl⟩
        · obtain ⟨ending, -, rfl⟩ := List.mem_map.mp h
          exact Or.inr ⟨_, rfl⟩
  have hfile : ∀ owned ∈ ownedNames, stem ++ ".rs" ≠ owned ++ ".rs" := by
    intro owned howned heq
    have hchars := congrArg String.toList heq
    rw [String.toList_append, String.toList_append] at hchars
    exact hstem (String.toList_inj.mp (List.append_cancel_right hchars) ▸ howned)
  intro hown
  simp only [ownNames, wireNames, indexNames, helperNames, moduleDirs, List.map_cons,
    List.map_nil, List.cons_append, List.nil_append, List.mem_cons, List.not_mem_nil,
    or_false] at hown
  have hmod := hfile "mod" (by decide)
  have hcontext := hfile "context" (by decide)
  have hresponse := hfile "response" (by decide)
  have hhelpers := hfile "helpers" (by decide)
  rcases hnames with ⟨dir, rfl⟩ | ⟨file, rfl⟩ <;> simp_all

/-! ### Paths -/

/-- A stem with an ending is the name of a file. -/
theorem plain_append {stem ending : String} (hstem : '/' ∉ stem.toList)
    (hending : '/' ∉ ending.toList) (hlength : 2 < ending.toList.length) :
    Plain (stem ++ ending) := by
  have hlong : 2 < (stem ++ ending).toList.length := by
    rw [String.toList_append, List.length_append]
    omega
  refine ⟨?_, ?_, ?_, ?_⟩
  · intro hnil
    rw [hnil] at hlong
    cases hlong
  · rw [String.toList_append, List.mem_append, not_or]
    exact ⟨hstem, hending⟩
  · intro hdot
    rw [hdot] at hlong
    simp at hlong
  · intro hdots
    rw [hdots] at hlong
    simp at hlong

/-- A stem has no slash in it. -/
theorem slash_not_mem_snakeCase (name : String) : '/' ∉ (snakeCase name).toList := by
  rw [snakeCase, String.toList_ofList]
  exact Text.not_mem_snake (by decide) (by decide) (by decide) _

theorem plain_src : Plain "src" := ⟨by decide, by decide, by decide, by decide⟩

theorem plain_of_mem_moduleDirs {dir : String} (h : dir ∈ moduleDirs) : Plain dir := by
  simp only [moduleDirs, List.mem_cons, List.not_mem_nil, or_false] at h
  rcases h with rfl | rfl | rfl | rfl <;> exact ⟨by decide, by decide, by decide, by decide⟩

/-- A file in one of the module directories. -/
theorem inside_source {dir file : String} (hdir : dir ∈ moduleDirs) (hfile : Plain file)
    (root : String) :
    Inside root (joinPath (joinPath (sourceDir root) dir) file) ["src", dir, file] :=
  ((inside_joinPath plain_src root).joinPath (plain_of_mem_moduleDirs hdir)).joinPath hfile

theorem inside_handlersDir (root : String) :
    Inside root (handlersDir root) ["src", "handlers"] :=
  (inside_joinPath plain_src root).joinPath (plain_of_mem_moduleDirs (by decide))

theorem inside_index {dir : String} (hdir : dir ∈ moduleDirs) (root : String) :
    Inside root (joinPath (joinPath (sourceDir root) dir) "mod.rs") (indexNames dir) :=
  inside_source hdir ⟨by decide, by decide, by decide, by decide⟩ root

theorem inside_context (root : String) :
    Inside root (contextHelperPath root) (helperNames "context.rs") :=
  inside_source (by decide) ⟨by decide, by decide, by decide, by decide⟩ root

theorem inside_response (root : String) :
    Inside root (responseHelperPath root) (helperNames "response.rs") :=
  inside_source (by decide) ⟨by decide, by decide, by decide, by decide⟩ root

theorem inside_legacy (root : String) :
    Inside root (legacyHelperPath root) (helperNames "helpers.rs") :=
  inside_source (by decide) ⟨by decide, by decide, by decide, by decide⟩ root

/-- The file that wires the modules together stands in the directory of the sources. -/
theorem inside_wire (root : String) :
    Inside root (joinPath root defaultRegistrationFile) wireNames where
  named dir := by
    rw [joinPath, String.toList_ofList, Workspace.named_append_append (by decide)]
    exact congrArg _ (by decide)
  plain := List.forall_mem_cons.mpr ⟨plain_src, List.forall_mem_singleton.mpr
    ⟨by decide, by decide, by decide, by decide⟩⟩
  nonempty := by
    rw [Path.toList_joinPath (by decide)]
    exact List.append_ne_nil_of_right_ne_nil _ (by decide)
  unslashed := by
    rw [Path.toList_joinPath (by decide), List.getLast?_append_of_ne_nil _ (by decide)]
    decide

/-- **The files of a module**, path by path. -/
theorem inside_paths (root module : String) (withTests : Bool) :
    List.Forall₂ (Inside root) (paths root module withTests)
      (fileNames (snakeCase module) withTests) := by
  have hslash := slash_not_mem_snakeCase module
  have hsource : Plain (snakeCase module ++ ".rs") :=
    plain_append hslash (by decide) (by decide)
  have hsources : List.Forall₂ (Inside root)
      (moduleDirs.map fun dir => modulePath root dir (snakeCase module))
      (moduleDirs.map fun dir => ["src", dir, snakeCase module ++ ".rs"]) := by
    rw [List.forall₂_map_left_iff, List.forall₂_map_right_iff, List.forall₂_same]
    exact fun dir hdir => inside_source hdir hsource root
  have htests : List.Forall₂ (Inside root)
      (["_logic.rs", "_handlers.rs"].map fun ending =>
        testPath root (snakeCase module ++ ending))
      (["_logic.rs", "_handlers.rs"].map fun ending => ["tests", snakeCase module ++ ending]) := by
    rw [List.forall₂_map_left_iff, List.forall₂_map_right_iff, List.forall₂_same]
    intro ending hending
    simp only [List.mem_cons, List.not_mem_nil, or_false] at hending
    have hplain : Plain (snakeCase module ++ ending) := by
      rcases hending with rfl | rfl <;> exact plain_append hslash (by decide) (by decide)
    exact (inside_joinPath ⟨by decide, by decide, by decide, by decide⟩ root).joinPath hplain
  cases withTests with
  | false => exact hsources
  | true => exact List.rel_append hsources htests

/-- The paths of the files that the generator keeps for itself. -/
def ownPaths (root : String) : List String :=
  joinPath root defaultRegistrationFile :: indexPaths root ++
    [contextHelperPath root, responseHelperPath root, legacyHelperPath root]

/-- The files that the generator keeps for itself, path by path. -/
theorem exists_names_of_mem_ownPaths {root own : String} (h : own ∈ ownPaths root) :
    ∃ names ∈ ownNames, Inside root own names := by
  simp only [ownPaths, List.cons_append, List.mem_cons, List.mem_append, List.not_mem_nil,
    or_false] at h
  rcases h with rfl | hindex | rfl | rfl | rfl
  · exact ⟨wireNames, List.mem_cons_self, inside_wire root⟩
  · obtain ⟨dir, hdir, rfl⟩ := List.mem_map.mp hindex
    have hmem : indexNames dir ∈ moduleDirs.map indexNames := List.mem_map_of_mem hdir
    exact ⟨indexNames dir, List.mem_cons_of_mem _ (List.mem_append_left _ hmem),
      inside_index hdir root⟩
  · exact ⟨helperNames "context.rs", by decide, inside_context root⟩
  · exact ⟨helperNames "response.rs", by decide, inside_response root⟩
  · exact ⟨helperNames "helpers.rs", by decide, inside_legacy root⟩

/-- Lists that are related member by member have related members. -/
theorem exists_of_forall₂ {α β : Type} {R : α → β → Prop} {as : List α} {bs : List β}
    (h : List.Forall₂ R as bs) : (∀ a ∈ as, ∃ b ∈ bs, R a b) ∧ ∀ b ∈ bs, ∃ a ∈ as, R a b := by
  induction h with
  | nil => simp
  | cons hab _ ih =>
      simp only [List.forall_mem_cons, List.exists_mem_cons_iff]
      exact ⟨⟨Or.inl hab, fun a ha => Or.inr (ih.1 a ha)⟩,
        Or.inl hab, fun b hb => Or.inr (ih.2 b hb)⟩

/-- A path of a module is that of one of its files. -/
theorem exists_names_of_mem_paths {root module path : String} {withTests : Bool}
    (h : path ∈ paths root module withTests) :
    ∃ names ∈ fileNames (snakeCase module) withTests, Inside root path names :=
  (exists_of_forall₂ (inside_paths root module withTests)).1 path h

/-- A file of a module has one of the paths of the module. -/
theorem exists_path_of_mem_fileNames {module : String} {withTests : Bool} {names : List String}
    (h : names ∈ fileNames (snakeCase module) withTests) (root : String) :
    ∃ path ∈ paths root module withTests, Inside root path names :=
  (exists_of_forall₂ (inside_paths root module withTests)).2 names h

end Layout

end ServiceGen
