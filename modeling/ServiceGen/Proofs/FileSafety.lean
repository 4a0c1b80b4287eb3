import ServiceGen.Proofs.Conservation
import ServiceGen.Proofs.IndexLines

/-!
# Safe Files

What a session of any length does to the files that it finds, and which files are new after it
(`Generator.Spares`). A session keeps to its rule (`keeps_performAll`), so it is enough to read
off what a chain of edits comes to at each kind of place.

This rests on the test whether a file exists. A root such as `new/..` breaks it: as long as
there is no directory `new`, no path below the root leads anywhere, so every file seems to be
free; but making the directory of a file makes `new` first, and then the file is overwritten
(`not_forall_spares`). Where nothing on the way to the root is left before it is there, files
are safe (`spares_of_settled`).
-/

namespace ServiceGen

open Relation (ReflTransGen)
open Workspace (Inside)
open Layout (wireNames indexNames helperNames fileNames ownNames moduleDirs)

namespace Generator

variable {g : Generator} {calls : List Call}

/-! ### What becomes of a file -/

/-- The changes to a file that a session may make: items are added to the lists of the
registration file, lines to an index file, the old helper file is cleared, and the files of the
modules that are asked for are replaced if that is wanted. -/
inductive Alters (g : Generator) (calls : List Call) (w : Workspace) (place : List String) :
    FileContent → FileContent → Prop
  | registered {before after : String} (hplace : place = w.place g.options.registrationPath)
      (hitems : ReflTransGen Registers before after) :
      Alters g calls w place (.text before) (.text after)
  | declared {index text ending : String} (hindex : index ∈ Layout.indexPaths g.options.outputDir)
      (hplace : place = w.place index) (hending : ending = "" ∨ ending = "\n")
      (names : List String) :
      Alters g calls w place (.text text)
        (.text (text ++ ending ++ Registration.declarations names))
  | cleared (before : FileContent)
      (hplace : place = w.place (Layout.legacyHelperPath g.options.outputDir)) :
      Alters g calls w place before (.text Support.legacyStub)
  | replaced (hforce : g.options.force = true) {name path : String} (hname : Requested calls name)
      (hpath : path ∈ g.pathsOf (snakeCase name)) (hplace : place = w.place path)
      (before after : FileContent) : Alters g calls w place before after

/-- **No file is harmed** by some calls of a session: every file stays, as it is or changed in one
of the ways that are allowed; a new file is a helper or one of the modules that are asked for;
and those of modules are none that the generator keeps for itself. -/
structure Spares (g : Generator) (calls : List Call) (s : Session) : Prop where
  stays : ∀ place before, s.workspace.tree.at? place = some (.file before) →
    ∃ after, (g.performAll calls s).workspace.tree.at? place = some (.file after) ∧
      (after = before ∨ g.Alters calls s.workspace place before after)
  comes : ∀ place after, (g.performAll calls s).workspace.tree.at? place = some (.file after) →
    (∃ before, s.workspace.tree.at? place = some (.file before)) ∨
      place = s.workspace.place (Layout.contextHelperPath g.options.outputDir) ∨
      place = s.workspace.place (Layout.responseHelperPath g.options.outputDir) ∨
      ∃ name, Requested calls name ∧
        ∃ path ∈ g.pathsOf (snakeCase name), place = s.workspace.place path
  apart : ∀ name, Requested calls name → ∀ path ∈ g.pathsOf (snakeCase name),
    ∀ own ∈ Layout.ownPaths g.options.outputDir, s.workspace.place path ≠ s.workspace.place own

/-! ### Chains of edits -/

section Chains

variable {w : Workspace} {place : List String}

/-- The edits that some calls of a session may make. -/
def Allowed (g : Generator) (calls : List Call) (w : Workspace) : EditRule :=
  Below (w.place g.options.outputDir) (g.ProjectRule (Requested calls))

/-- **What the edits of a session come to** for a file that is there. -/
theorem alters_of_edits (hreg : g.options.registrationFile = Layout.defaultRegistrationFile)
    {before after : FileContent}
    (h : Edits (g.Allowed calls w) place (some before) (some after)) :
    after = before ∨ g.Alters calls w place before after := by
  have hrequested : ∀ name, Requested calls name → Layout.isReserved name = false :=
    fun _ => And.left
  rcases ReflTransGen.cases_head h with heq | ⟨_, ⟨text, ⟨names, rfl, hrule⟩, rfl⟩, -⟩
  · exact Or.inl (Option.some.inj heq).symm
  -- The first edit tells what file this is, and so what all others are.
  rcases hrule with hrule | hrule
  · cases hrule with
    | clear hstub hstale =>
        rcases ReflTransGen.cases_tail h with heq | ⟨_, -, text, hlast, heq⟩
        · exact Or.inl (Option.some.inj heq)
        · obtain ⟨rfl, -⟩ := ProjectRule.of_legacy hrequested (below_append_iff.mp hlast)
          cases heq
          exact Or.inr (.cleared _ ((Layout.inside_legacy _).place w).symm)
  · cases hrule with
    | item item hmarkers old =>
        obtain ⟨new, hnew, hchain⟩ := h.exists_reflTransGen fun old text hedit => by
          obtain ⟨_, heq, hregisters⟩ :=
            ProjectRule.of_wire hrequested (below_append_iff.mp hedit)
          cases heq
          exact hregisters
        cases hnew
        refine Or.inr (.registered ?_ hchain)
        rw [GeneratorOptions.registrationPath, hreg, (Layout.inside_wire _).place]
    | declaration hdir hname old =>
        obtain ⟨new, hnew, hchain⟩ := h.exists_reflTransGen
          (R := fun old new => ∃ name, new = (Registration.declareModule old name).2)
          fun old text hedit => by
            obtain ⟨_, name, heq, -, htext⟩ :=
              ProjectRule.of_index hrequested hdir (below_append_iff.mp hedit)
            cases heq
            exact ⟨name, htext⟩
        cases hnew
        rcases Registration.exists_declarations hchain with rfl | ⟨names, -, rfl⟩
        · exact Or.inl rfl
        · right
          obtain ⟨ending, hending, hended⟩ := Registration.exists_ending old
          rw [hended]
          exact .declared (List.mem_map_of_mem hdir)
            ((Layout.inside_index hdir g.options.outputDir).place w).symm hending names
    | file hname hnames hbefore text =>
        obtain ⟨path, hpath, hinside⟩ := Layout.exists_path_of_mem_fileNames hnames
          g.options.outputDir
        exact Or.inr (.replaced (hbefore.resolve_left (by simp)) hname hpath
          (hinside.place w).symm _ _)

/-- Where the edits of a session make new files. -/
theorem place_of_edits {after : FileContent}
    (h : Edits (g.Allowed calls w) place none (some after)) :
    place = w.place (Layout.contextHelperPath g.options.outputDir) ∨
      place = w.place (Layout.responseHelperPath g.options.outputDir) ∨
      ∃ name, Requested calls name ∧ ∃ path ∈ g.pathsOf (snakeCase name), place = w.place path := by
  rcases ReflTransGen.cases_head h with heq | ⟨_, ⟨text, ⟨names, rfl, hrule⟩, -⟩, -⟩
  · cases heq
  rcases hrule with hrule | hrule
  · cases hrule with
    | helper hfile text =>
        rcases hfile with rfl | rfl
        · exact Or.inl ((Layout.inside_context _).place w).symm
        · exact Or.inr (Or.inl ((Layout.inside_response _).place w).symm)
  · cases hrule with
    | file hname hnames hbefore text =>
        obtain ⟨path, hpath, hinside⟩ := Layout.exists_path_of_mem_fileNames hnames
          g.options.outputDir
        exact Or.inr (Or.inr ⟨_, hname, path, hpath, (hinside.place w).symm⟩)

end Chains

/-- The paths of requested modules lead to other places than those of the generator's own
files. -/
theorem place_ne_place_of_requested {name path own : String} (hname : Requested calls name)
    (hpath : path ∈ g.pathsOf (snakeCase name)) (hown : own ∈ Layout.ownPaths g.options.outputDir)
    (w : Workspace) : w.place path ≠ w.place own := by
  obtain ⟨names, hnames, hinside⟩ := Layout.exists_names_of_mem_paths hpath
  obtain ⟨ownNames, hownNames, hownInside⟩ := Layout.exists_names_of_mem_ownPaths hown
  rw [hinside.place, hownInside.place]
  intro heq
  obtain rfl := List.append_cancel_left heq
  exact not_mem_ownNames (fun _ => And.left) hname hnames hownNames

/-- **No file is harmed**, over any calls of a session, if nothing on the way to the root is left
before it is there. -/
theorem spares_of_settled (g : Generator) (calls : List Call) (s : Session)
    (hreg : g.options.registrationFile = Layout.defaultRegistrationFile)
    (hsettled : s.workspace.Settled g.options.outputDir) : g.Spares calls s := by
  have hevolves : Evolves (g.Allowed calls s.workspace) s.workspace
      (g.performAll calls s).workspace :=
    keeps_performAll hreg calls s hsettled
  refine ⟨fun place before hbefore => ?_, fun place after hafter => ?_,
    fun name hname path hpath own hown => place_ne_place_of_requested hname hpath hown s.workspace⟩
  · have hedits := hevolves.edits_contentAt? place
    rw [FileTree.contentAt?_eq_some_iff.mpr hbefore] at hedits
    obtain ⟨after, hafter⟩ := hedits.exists_content
    rw [hafter] at hedits
    exact ⟨after, FileTree.contentAt?_eq_some_iff.mp hafter, alters_of_edits hreg hedits⟩
  · have hedits := hevolves.edits_contentAt? place
    rw [FileTree.contentAt?_eq_some_iff.mpr hafter] at hedits
    cases hbefore : s.workspace.tree.contentAt? place with
    | some before => exact Or.inl ⟨before, FileTree.contentAt?_eq_some_iff.mp hbefore⟩
    | none =>
        rw [hbefore] at hedits
        exact Or.inr (place_of_edits hedits)

/-- A session over a project whose root is an absolute path. -/
theorem spares_of_settled_shop :
    (blank "/shop").options.registrationFile = Layout.defaultRegistrationFile ∧
      Workspace.Settled {} (blank "/shop").options.outputDir ∧
      (blank "/shop").Spares [.module none "book", .all {}] { workspace := {} } := by
  have hsettled : Workspace.Settled {} (blank "/shop").options.outputDir := by
    intro above habove
    rw [show Workspace.departed (Workspace.route {} (blank "/shop").options.outputDir) [] = []
      from by decide] at habove
    cases habove
  exact ⟨rfl, hsettled, spares_of_settled (blank "/shop") _ { workspace := {} } rfl hsettled⟩

/-- A project with a context helper of its own. -/
def ownContext : Workspace where
  tree := .directory [("src", .directory [("handlers", .directory
    [("context.rs", .file (.text "// mine\n"))])])]

/-- Below `new/..`, the context helper is overwritten. -/
theorem not_forall_spares : ¬ ∀ (g : Generator) (calls : List Call) (s : Session),
    g.options.registrationFile = Layout.defaultRegistrationFile → g.Spares calls s := by
  intro hall
  obtain ⟨after, hafter, hsame⟩ := (hall (blank "new/..") [.all {}] { workspace := ownContext }
    rfl).stays ["src", "handlers", "context.rs"] (.text "// mine\n") rfl
  have hblank : ((blank "new/..").performAll [.all {}]
      { workspace := ownContext }).workspace.tree.contentAt? ["src", "handlers", "context.rs"] =
        some (.text "") := by decide +kernel
  rw [FileTree.contentAt?_eq_some_iff.mpr hafter] at hblank
  cases hblank
  have hindex : ∀ index ∈ Layout.indexPaths "new/..",
      ["src", "handlers", "context.rs"] ≠ ownContext.place index := by decide
  have hkept : ∀ before after, ¬ (blank "new/..").Alters [.all {}] ownContext
      ["src", "handlers", "context.rs"] before after := by
    intro before after h
    cases h with
    | registered hplace hitems => exact absurd hplace (by decide)
    | declared hmem hplace hending names => exact hindex _ hmem hplace
    | cleared before hplace => exact absurd hplace (by decide)
    | replaced hforce hname hpath hplace => cases hforce
  rcases hsame with hsame | hsame
  · exact absurd hsame (by decide)
  · exact hkept _ _ hsame

end Generator

end ServiceGen
