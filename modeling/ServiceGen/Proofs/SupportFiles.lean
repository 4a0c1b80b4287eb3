import ServiceGen.Proofs.HandlerSources

/-!
# Support Files

The two helpers that all handlers import (`Support.helpers`). A run that provides them takes its
steps one after the other (`Support.Passage`): it clears the old helper file, reads the sources of
the handlers once, provides each helper unless a source has its marker or its file is there, and
declares both. Each later step leaves what the earlier ones were about: declarations keep what a
source mentions, a helper that is there is not written, and a helper file is no old helper file.

A run on a root that is not settled misses what is there. It makes the directories on the way, so
the root is settled after it (`Passage.settled`), but it has not seen the old helper file and the
sources, and the next run may have to clear the one or fail on the other (`Rested`).

## Main results

* `provides_of_runOn_ensure`: **what is true once the support files are provided**, and when another
  run finds nothing to do.
* `not_forall_runOn_ensure_again`: below a root that is not settled, another run may do something.
* `Generator.runIn_supportWork_again`: the same for a session with modules generated in between.
-/

namespace ServiceGen

open Stateful (runIn Moves Cumulative)
open Workspace (Conserves cumulative_conserves Inside)
open Layout (wireNames indexNames helperNames fileNames ownNames moduleDirs)

namespace Support

/-! ### Steps -/

section Provide

variable {set : TemplateSet} {writer : Writer} {crate : String} {sources : List String}
  {kind : TemplateKind} {marker path : String} {w w' : Workspace}

/-- What providing a support file does: nothing where it is mentioned or exists. -/
theorem runIn_provide : runIn (provide set writer crate sources kind marker path) w =
    if sources.any (mentions marker) = true ∨ w.exists? path = true then (.ok false, w)
    else runIn (do
      let content ← Work.ofExcept (set.renderSupport kind crate)
      return (← writer.write path content false) == .written) w := by
  rw [provide]
  by_cases hany : sources.any (mentions marker) = true
  · rw [if_pos hany, if_pos (Or.inl hany)]
    rfl
  · rw [if_neg hany, Stateful.runIn_get_bind]
    by_cases hexists : w.exists? path = true
    · rw [if_pos hexists, if_pos (Or.inr hexists)]
      rfl
    · rw [if_neg hexists, if_neg (not_or.mpr ⟨hany, hexists⟩)]

/-- A helper that was provided is there, or some source defines it. -/
theorem of_runIn_provide {provided : Bool} (hempty : path.isEmpty = false)
    (h : runIn (provide set writer crate sources kind marker path) w = (.ok provided, w')) :
    sources.any (mentions marker) = true ∨ w'.exists? path = true := by
  rw [runIn_provide] at h
  split at h
  · rename_i hthere
    cases h
    exact hthere
  · obtain ⟨content, s, -, h⟩ := Stateful.runIn_bind_eq_ok h
    obtain ⟨outcome, s', hwrite, h⟩ := Stateful.runIn_bind_eq_ok h
    cases h
    exact Or.inr (writer.exists?_of_runIn_write hempty hwrite)

end Provide

end Support

namespace Generator

variable {g : Generator} {requested : String → Prop} {names : List String} {text : String}
  {before : Option FileContent}

/-- Names that are declared stand on one line. -/
theorem Declarable.newline_not_mem {name : String} (h : Declarable requested name) :
    '\n' ∉ name.toList := by
  rcases h with rfl | rfl | ⟨module, -, rfl⟩
  · decide
  · decide
  · rw [snakeCase, String.toList_ofList]
    exact Text.not_mem_snake (by decide) (by decide) (by decide) _

/-- Index files are edited by declarations, and each keeps the others. -/
theorem Rule.respecting (hrequested : ∀ name, requested name → Layout.isReserved name = false)
    {dir : String} (hdir : dir ∈ moduleDirs) (name : String)
    (h : g.Rule requested names before text) :
    Registration.Respecting (indexNames dir) (Registration.declareModule · name) names before
      text := by
  rintro rfl
  obtain ⟨old, other, hold, hother, rfl⟩ := ProjectRule.of_index hrequested hdir (Or.inr h)
  exact ⟨old, hold, Registration.saysSame_declareModule hother.newline_not_mem name old⟩

/-- The rule of modules has nothing for the helpers. -/
theorem Rule.not_helper (hrequested : ∀ name, requested name → Layout.isReserved name = false)
    {file : String} (hfile : file = "context.rs" ∨ file = "response.rs") :
    ¬ g.Rule requested (helperNames file) before text := by
  have hown : helperNames file ∈ ownNames := by
    rcases hfile with rfl | rfl <;> decide
  intro h
  generalize hnames : helperNames file = names at h hown
  cases h with
  | item item hmarkers old => simp [wireNames, helperNames] at hnames
  | declaration hdir hname old =>
      rcases hfile with rfl | rfl <;> simp [helperNames, indexNames] at hnames
  | file hname hmem hbefore text => exact not_mem_ownNames hrequested hname hmem hown

end Generator

namespace Support

variable {g : Generator} {root : String} {w w' w'' : Workspace} {requested : String → Prop}

/-- What declaring a support module does: nothing without its file. -/
theorem runIn_declare (name path : String) : runIn (declare root name path) w =
    if w.isFile path then runIn (do
      let _ ← Registration.declareInFile (joinPath (Layout.handlersDir root) "mod.rs") name) w
    else (.ok (), w) := by
  rw [declare, Stateful.runIn_get_bind]
  split <;> rfl

/-! ### Helpers -/

/-- A helper that all handlers import. -/
structure Helper where
  /-- The template that it is made from. -/
  kind : TemplateKind
  /-- What a source contains that defines it. -/
  marker : String
  /-- The name of its file. -/
  file : String

/-- The helper for the context of a request. -/
def contextHelper : Helper :=
  ⟨.contextHelper, contextMarker, "context.rs"⟩

/-- The helper for responses. -/
def responseHelper : Helper :=
  ⟨.responseHelper, responseMarker, "response.rs"⟩

/-- The helpers. -/
def helpers : List Helper :=
  [contextHelper, responseHelper]

namespace Helper

/-- The file of a helper. -/
def path (helper : Helper) (root : String) : String :=
  joinPath (Layout.handlersDir root) helper.file

/-- Writes a helper if no source has its marker and its file is free. -/
def provide (helper : Helper) (root : String) (set : TemplateSet) (writer : Writer)
    (crate : String) (sources : List String) : Work Bool :=
  Support.provide set writer crate sources helper.kind helper.marker (helper.path root)

/-- A text is what is written of a helper that is missing. -/
def Makes (helper : Helper) (root : String) (set : TemplateSet) (writer : Writer)
    (crate text : String) : Prop :=
  ∃ content, set.renderSupport helper.kind crate = .ok content ∧
    text = writer.contentFor (helper.path root) content

/-- What is written of a helper defines it. -/
def KeepsMarker (helper : Helper) (root : String) (set : TemplateSet) (writer : Writer)
    (crate : String) : Prop :=
  ∀ text, helper.Makes root set writer crate text → mentions helper.marker text = true

/-- A helper is provided: some source of the handlers mentions its marker, or its file is there. -/
def Provided (helper : Helper) (root : String) (w : Workspace) : Prop :=
  (∃ place text, (place, .text text) ∈ sourceFiles w (Layout.handlersDir root) ∧
      mentions helper.marker text = true) ∨
    w.exists? (helper.path root) = true

end Helper

/-- Nothing is to be done about the old helper file, and the sources can be read. -/
structure Rested (root : String) (w : Workspace) : Prop where
  legacy : Rests (w.file? (Layout.legacyHelperPath root))
  sources : ∀ file ∈ sourceFiles w (Layout.handlersDir root), ∃ text, file.2 = .text text

section Later

variable {g : Generator} {root : String} {w w' w'' : Workspace} {requested : String → Prop}
  {helper : Helper}

/-- The support files have two names. -/
theorem file_of_mem_helpers (h : helper ∈ helpers) :
    helper.file = "context.rs" ∨ helper.file = "response.rs" := by
  rcases List.mem_pair.mp h with rfl | rfl
  · exact Or.inl rfl
  · exact Or.inr rfl

/-- A support file lies among the handlers, below the root. -/
theorem inside_path (h : helper ∈ helpers) (root : String) :
    Inside root (helper.path root) (helperNames helper.file) := by
  rcases List.mem_pair.mp h with rfl | rfl
  · exact Layout.inside_context root
  · exact Layout.inside_response root

theorem mem_contextHelper : contextHelper ∈ helpers := List.mem_cons_self

theorem mem_responseHelper : responseHelper ∈ helpers := List.mem_cons_of_mem _ List.mem_cons_self

/-- The files of the helpers are two files. -/
theorem contextHelper_path_ne (root : String) :
    contextHelper.path root ≠ responseHelper.path root := by
  intro heq
  have hcontext := (Layout.inside_context root).place default
  have hresponse := (Layout.inside_response root).place default
  rw [show Layout.contextHelperPath root = Layout.responseHelperPath root from heq,
    hresponse] at hcontext
  exact absurd (List.append_cancel_left hcontext) (by decide)

/-- **A helper file that is there** is left as it is. -/
theorem file?_helper_later (hrequested : ∀ name, requested name → Layout.isReserved name = false)
    (hhelper : helper ∈ helpers) {content : FileContent}
    (hfile : w.file? (helper.path root) = some content)
    (hlater : Conserves root (g.LaterRule requested) w w') :
    w'.file? (helper.path root) = some content := by
  have hinside := inside_path hhelper root
  have hsettled : w.Settled (helper.path root) :=
    Workspace.settled_of_locate (Workspace.file?_eq_some_iff.mp hfile).2.1
  have hedits := (hlater (hinside.settled_iff.mp hsettled)).edits_file? hsettled
  rw [hinside.place, hfile] at hedits
  rcases Relation.ReflTransGen.cases_head hedits with heq | ⟨_, ⟨text, hedit, -⟩, -⟩
  · exact heq.symm
  · rcases below_append_iff.mp hedit with ⟨hnone, -⟩ | hedit
    · cases hnone
    · exact absurd hedit (Generator.Rule.not_helper hrequested (file_of_mem_helpers hhelper))

/-- Where a helper is provided, the root is settled. -/
theorem Helper.Provided.settled (hhelper : helper ∈ helpers) (h : helper.Provided root w) :
    w.Settled root := by
  rcases h with ⟨place, text, hfile, -⟩ | hexists
  · obtain ⟨found, hlook, -⟩ := mem_sourceFiles_iff.mp hfile
    obtain ⟨-, hlocate, -⟩ := Workspace.look_eq_ok_iff.mp hlook
    exact (Layout.inside_handlersDir root).settled_iff.mp (Workspace.settled_of_locate hlocate)
  · obtain ⟨-, hlocate, -⟩ := Workspace.exists?_eq_true_iff.mp hexists
    exact (inside_path hhelper root).settled_iff.mp (Workspace.settled_of_locate hlocate)

/-- **A helper that is provided** stays so. -/
theorem Helper.Provided.later (hforce : g.options.force = false) (hhelper : helper ∈ helpers)
    (h : helper.Provided root w) (hlater : Conserves root (g.LaterRule requested) w w') :
    helper.Provided root w' := by
  have hevolves := hlater (h.settled hhelper)
  rcases h with ⟨place, text, hfile, hmentions⟩ | hexists
  · obtain ⟨new, hnew, hstill⟩ := exists_mentions_later hforce hevolves hfile hmentions
    exact Or.inl ⟨place, new, hnew, hstill⟩
  · exact Or.inr (hevolves.exists? hexists)

/-- Declarations keep to the rule of modules. -/
theorem conserves_declare {name path : String} (hname : Generator.Declarable requested name)
    (h : runIn (declare root name path) w = (.ok (), w')) :
    Conserves root (g.Rule requested) w w' :=
  (moves_declare (fun text => .declaration (by decide) hname text) path).of_runIn h

/-- **A helper that was declared** need not be declared again. -/
theorem runIn_declare_again (hrequested : ∀ name, requested name → Layout.isReserved name = false)
    (hhelper : helper ∈ helpers) {name : String} (hname : Generator.Declarable requested name)
    (hsettled : w.Settled root)
    (hrun : runIn (declare root name (helper.path root)) w = (.ok (), w'))
    (hlater : Conserves root (g.Rule requested) w' w'') :
    runIn (declare root name (helper.path root)) w'' = (.ok (), w'') := by
  have hinside := inside_path hhelper root
  have hfirst : Conserves root (g.Rule requested) w w' := conserves_declare hname hrun
  have hevolves := (cumulative_conserves root _).trans hfirst hlater hsettled
  have hsame : w''.file? (helper.path root) = w.file? (helper.path root) := by
    have hedits := hevolves.edits_file? (hinside.settled_iff.mpr hsettled)
    rw [hinside.place] at hedits
    exact hedits.eq_of_forall_not fun before text hedit =>
      Generator.Rule.not_helper hrequested (file_of_mem_helpers hhelper)
        (below_append_iff.mp hedit)
  rw [runIn_declare, Workspace.isFile_eq] at hrun ⊢
  rw [hsame]
  split
  · rename_i hthere
    rw [if_pos hthere] at hrun
    obtain ⟨outcome, made, hdeclare, hdone⟩ := Stateful.runIn_bind_eq_ok hrun
    cases hdone
    have hagain : runIn (Registration.declareInFile (joinPath (Layout.handlersDir root) "mod.rs")
        name) w'' = (.ok outcome.again, w'') :=
      Registration.runIn_changeFile_again (Layout.inside_index (by decide) root)
        (Registration.isSettled_declareModule hname.newline_not_mem) hdeclare
        ((hfirst hsettled).settled hsettled)
        (hlater.mono fun _ _ _ => Generator.Rule.respecting hrequested (by decide) name)
    rw [Stateful.runIn_bind_of_ok hagain]
    rfl
  · rfl

variable {set : TemplateSet} {writer : Writer} {crate : String} {sources : List String}
  {provided : Bool}

/-- A step for a helper keeps to the rule of sessions. -/
theorem conserves_provide (hhelper : helper ∈ helpers)
    (h : runIn (helper.provide root set writer crate sources) w = (.ok provided, w')) :
    Conserves root (g.LaterRule requested) w w' :=
  have hfile := file_of_mem_helpers hhelper
  (moves_provide hfile (fun text => Or.inl ⟨rfl, .helper hfile text⟩) _ _ _ _ _ _).of_runIn h

/-- After its step, a helper is provided by the sources that were read or by its file. -/
theorem provided_or_provided (hhelper : helper ∈ helpers)
    (hread : (sourceFiles w (Layout.handlersDir root)).mapM (sourceText (Layout.handlersDir root)) =
      .ok sources)
    (h : runIn (helper.provide root set writer crate sources) w' = (.ok provided, w'')) :
    helper.Provided root w ∨ helper.Provided root w'' := by
  rcases of_runIn_provide (inside_path hhelper root).isEmpty_eq_false h with hany | hexists
  · exact Or.inl (Or.inl ((any_mentions_iff (mapM_sourceText_eq_ok_iff.mp hread) _).mp hany))
  · exact Or.inr (Or.inr hexists)

/-- A helper that is provided has no step to take. -/
theorem runIn_provide_of_provided (h : helper.Provided root w)
    (hread : (sourceFiles w (Layout.handlersDir root)).mapM (sourceText (Layout.handlersDir root)) =
      .ok sources) :
    runIn (helper.provide root set writer crate sources) w = (.ok false, w) := by
  rw [Helper.provide, runIn_provide,
    if_pos (h.imp_left (any_mentions_iff (mapM_sourceText_eq_ok_iff.mp hread) _).mpr)]

/-- **A helper that is written** has the text that is made of its template. -/
theorem exists_file?_of_runIn_provide (hhelper : helper ∈ helpers)
    (h : runIn (helper.provide root set writer crate sources) w = (.ok true, w')) :
    ∃ text, w'.file? (helper.path root) = some (.text text) ∧
      helper.Makes root set writer crate text := by
  rw [Helper.provide, runIn_provide] at h
  split at h
  · cases h
  · obtain ⟨content, w₁, hrender, h⟩ := Stateful.runIn_bind_eq_ok h
    obtain ⟨outcome, w₂, hwrite, h⟩ := Stateful.runIn_bind_eq_ok h
    have hmade : set.renderSupport helper.kind crate = .ok content := by
      cases hcontent : set.renderSupport helper.kind crate with
      | error failure =>
          rw [hcontent] at hrender
          cases hrender
      | ok made =>
          rw [hcontent] at hrender
          cases hrender
          rfl
    cases outcome with
    | skipped => cases h
    | written =>
        cases h
        exact ⟨_, writer.file?_of_runIn_write (inside_path hhelper root).isEmpty_eq_false hwrite,
          content, hmade, rfl⟩

end Later

/-! ### Runs -/

/-- A run that provides the support files, step by step. -/
structure Passage (root : String) (set : TemplateSet) (writer : Writer) (crate : String)
    (w : Workspace) (report : SupportReport) (w' : Workspace) where
  cleared : Bool
  sources : List String
  first : Bool
  second : Bool
  w₁ : Workspace
  w₂ : Workspace
  w₃ : Workspace
  w₄ : Workspace
  legacy : runIn (normalizeLegacy (Layout.legacyHelperPath root)) w = (.ok cleared, w₁)
  read : (sourceFiles w₁ (Layout.handlersDir root)).mapM (sourceText (Layout.handlersDir root)) =
    .ok sources
  context : runIn (contextHelper.provide root set writer crate sources) w₁ = (.ok first, w₂)
  response : runIn (responseHelper.provide root set writer crate sources) w₂ = (.ok second, w₃)
  declareContext : runIn (declare root "context" (contextHelper.path root)) w₃ = (.ok (), w₄)
  declareResponse : runIn (declare root "response" (responseHelper.path root)) w₄ = (.ok (), w')
  report_eq : report = {
    written := (if first then [contextHelper.path root] else []) ++
      (if second then [responseHelper.path root] else [])
    normalized := cleared }

section Runs

variable {root : String} {set set' : TemplateSet} {writer writer' : Writer}
  {package package' crate : String} {w w' w'' : Workspace} {report : SupportReport}

/-- The steps of a run, in terms of the helpers. -/
theorem ensure_eq (root : String) (set : TemplateSet) (writer : Writer) (package : String) :
    ensure root set writer package = (do
      let normalized ← normalizeLegacy (Layout.legacyHelperPath root)
      let sources ← sourcesBelow (Layout.handlersDir root)
      let first ← contextHelper.provide root set writer (ModuleView.crateIdent package) sources
      let second ← responseHelper.provide root set writer (ModuleView.crateIdent package) sources
      declare root "context" (contextHelper.path root)
      declare root "response" (responseHelper.path root)
      let written := (if first then [contextHelper.path root] else []) ++
        (if second then [responseHelper.path root] else [])
      return { written, normalized }) :=
  rfl

/-- A run that ensures the support files passes through the stages in order. -/
theorem nonempty_passage (h : runIn (ensure root set writer package) w = (.ok report, w')) :
    Nonempty (Passage root set writer (ModuleView.crateIdent package) w report w') := by
  rw [ensure_eq] at h
  obtain ⟨cleared, w₁, hlegacy, h⟩ := Stateful.runIn_bind_eq_ok h
  obtain ⟨sources, w₂, hsources, h⟩ := Stateful.runIn_bind_eq_ok h
  obtain ⟨first, w₃, hfirst, h⟩ := Stateful.runIn_bind_eq_ok h
  obtain ⟨second, w₄, hsecond, h⟩ := Stateful.runIn_bind_eq_ok h
  obtain ⟨_, w₅, hcontext, h⟩ := Stateful.runIn_bind_eq_ok h
  obtain ⟨_, w₆, hresponse, h⟩ := Stateful.runIn_bind_eq_ok h
  cases h
  rw [runIn_sourcesBelow, Prod.mk.injEq] at hsources
  obtain ⟨hsources, rfl⟩ := hsources
  exact ⟨⟨cleared, sources, first, second, w₁, w₃, w₄, w₅, hlegacy, hsources, hfirst, hsecond,
    hcontext, hresponse, rfl⟩⟩

namespace Passage

variable {g : Generator} {requested : String → Prop}

variable (p : Passage root set writer crate w report w')

include p

/-- What comes after the helpers: two declarations, and later work. -/
theorem conserves_declarations (hlater : Conserves root (g.Rule requested) w' w'') :
    Conserves root (g.Rule requested) p.w₃ p.w₄ ∧ Conserves root (g.Rule requested) p.w₄ w'' := by
  have hresponse : Generator.Declarable requested "response" := Or.inr (Or.inl rfl)
  exact ⟨conserves_declare (Or.inl rfl) p.declareContext, (cumulative_conserves root _).trans
    (conserves_declare hresponse p.declareResponse) hlater⟩

/-- The helpers, and what comes after them. -/
theorem conserves_helpers (hlater : Conserves root (g.Rule requested) w' w'') :
    Conserves root (g.LaterRule requested) p.w₁ w'' ∧
      Conserves root (g.LaterRule requested) p.w₂ w'' ∧
      Conserves root (g.LaterRule requested) p.w₃ w'' := by
  have hR := cumulative_conserves root (g.LaterRule requested)
  have hlast : Conserves root (g.LaterRule requested) p.w₃ w'' :=
    ((cumulative_conserves root _).trans (p.conserves_declarations hlater).1
      (p.conserves_declarations hlater).2).mono fun _ _ _ => Or.inr
  have hresponse := hR.trans (conserves_provide mem_responseHelper p.response) hlast
  exact ⟨hR.trans (conserves_provide mem_contextHelper p.context) hresponse, hresponse, hlast⟩

/-- **A run leaves a settled root**, wherever it began: what it has found or made is there. -/
theorem settled : p.w₃.Settled root := by
  rcases provided_or_provided mem_responseHelper p.read p.response with hsources | hfile
  · have hsettled₁ := hsources.settled mem_responseHelper
    have hcontext : Conserves root ((Generator.blank root).LaterRule fun _ => False) p.w₁ p.w₂ :=
      conserves_provide mem_contextHelper p.context
    have hresponse : Conserves root ((Generator.blank root).LaterRule fun _ => False) p.w₂ p.w₃ :=
      conserves_provide mem_responseHelper p.response
    have hsettled₂ := (hcontext hsettled₁).settled hsettled₁
    exact (hresponse hsettled₂).settled hsettled₂
  · exact hfile.settled mem_responseHelper

/-- **Each helper is provided**, and stays so. -/
theorem provided (hforce : g.options.force = false)
    (hlater : Conserves root (g.Rule requested) w' w'') :
    ∀ helper ∈ helpers, helper.Provided root w'' := by
  obtain ⟨hlater₁, hlater₂, hlater₃⟩ := p.conserves_helpers hlater
  intro helper hhelper
  rcases List.mem_pair.mp hhelper with rfl | rfl
  · exact (provided_or_provided hhelper p.read p.context).elim
      (·.later hforce hhelper hlater₁) (·.later hforce hhelper hlater₂)
  · exact (provided_or_provided hhelper p.read p.response).elim
      (·.later hforce hhelper hlater₁) (·.later hforce hhelper hlater₃)

/-- **A helper that the run reports as written** has the text that is made of its template. -/
theorem exists_file? {helper : Helper} (hhelper : helper ∈ helpers)
    (hwritten : helper.path root ∈ report.written) :
    ∃ text, w'.file? (helper.path root) = some (.text text) ∧
      helper.Makes root set writer crate text := by
  have hlater : Conserves root ((Generator.blank root).Rule fun _ => False) w' w' :=
    (cumulative_conserves root _).refl w'
  obtain ⟨-, hlater₂, hlater₃⟩ := p.conserves_helpers hlater
  have hnone : ∀ name, False → Layout.isReserved name = false := fun _ h => h.elim
  rw [p.report_eq, List.mem_append] at hwritten
  have hne := contextHelper_path_ne root
  rcases List.mem_pair.mp hhelper with rfl | rfl
  · have hfirst : p.first = true := by
      rcases hwritten with h | h
      · by_contra hfirst
        rw [if_neg hfirst] at h
        cases h
      · split at h
        · exact absurd (List.mem_singleton.mp h) hne
        · cases h
    obtain ⟨text, hfile, hmakes⟩ := exists_file?_of_runIn_provide hhelper (hfirst ▸ p.context)
    exact ⟨text, file?_helper_later hnone hhelper hfile hlater₂, hmakes⟩
  · have hsecond : p.second = true := by
      rcases hwritten with h | h
      · split at h
        · exact absurd (List.mem_singleton.mp h).symm hne
        · cases h
      · by_contra hsecond
        rw [if_neg hsecond] at h
        cases h
    obtain ⟨text, hfile, hmakes⟩ := exists_file?_of_runIn_provide hhelper (hsecond ▸ p.response)
    exact ⟨text, file?_helper_later hnone hhelper hfile hlater₃, hmakes⟩

/-- **On a settled root**, a run clears the old file for good, and the sources can be read again. -/
theorem rested (hrequested : ∀ name, requested name → Layout.isReserved name = false)
    (hsettled : w.Settled root) (hlater : Conserves root (g.Rule requested) w' w'') :
    Rested root w'' := by
  obtain ⟨hlater₁, -, -⟩ := p.conserves_helpers hlater
  have hsettled₁ : p.w₁.Settled root :=
    ((moves_normalizeLegacy (T := g.ProjectRule requested) _ fun text hstub hstale =>
      Or.inl (.clear hstub hstale)).of_runIn p.legacy hsettled).settled hsettled
  refine ⟨rests_later hrequested hsettled₁ p.legacy
    (hlater₁.mono fun _ _ _ => Generator.LaterRule.project), ?_⟩
  exact forall_sourceFiles_later ((Layout.inside_handlersDir root).settled_iff.mpr hsettled₁)
    (hlater₁ hsettled₁) (forall_text_of_mapM_sourceText p.read)

/-- **Another run has nothing to do**, with whatever templates, if nothing is to be done about the
old file and the sources can be read. -/
theorem runIn_again (hforce : g.options.force = false)
    (hrequested : ∀ name, requested name → Layout.isReserved name = false)
    (hlater : Conserves root (g.Rule requested) w' w'') (hrested : Rested root w'')
    (set' : TemplateSet) (writer' : Writer) (package' : String) :
    runIn (ensure root set' writer' package') w'' = (.ok {}, w'') := by
  have hlegacy := runIn_normalizeLegacy_of_rests hrested.legacy
  obtain ⟨sources, hread⟩ := exists_mapM_sourceText (Layout.handlersDir root) hrested.sources
  have hsources : runIn (sourcesBelow (Layout.handlersDir root)) w'' = (.ok sources, w'') := by
    rw [runIn_sourcesBelow, hread]
  have hprovide : ∀ helper ∈ helpers, runIn (helper.provide root set' writer'
      (ModuleView.crateIdent package') sources) w'' = (.ok false, w'') :=
    fun helper hhelper => runIn_provide_of_provided (p.provided hforce hlater helper hhelper) hread
  obtain ⟨hfirst, hafter⟩ := p.conserves_declarations hlater
  have hdeclareContext := runIn_declare_again hrequested mem_contextHelper (Or.inl rfl) p.settled
    p.declareContext hafter
  have hdeclareResponse := runIn_declare_again hrequested mem_responseHelper (Or.inr (Or.inl rfl))
    ((hfirst p.settled).settled p.settled) p.declareResponse hlater
  rw [ensure_eq, Stateful.runIn_bind_of_ok hlegacy, Stateful.runIn_bind_of_ok hsources,
    Stateful.runIn_bind_of_ok (hprovide contextHelper mem_contextHelper),
    Stateful.runIn_bind_of_ok (hprovide responseHelper mem_responseHelper),
    Stateful.runIn_bind_of_ok hdeclareContext, Stateful.runIn_bind_of_ok hdeclareResponse]
  rfl

end Passage

/-- A run that changes nothing has found the old file and the sources so. -/
theorem rested_of_runIn_ensure
    (h : runIn (ensure root set writer package) w = (.ok {}, w)) : Rested root w := by
  obtain ⟨p⟩ := nonempty_passage h
  obtain ⟨cleared, sources, first, second, w₁, w₂, w₃, w₄, hlegacy, hread, -, -, -, -, hreport⟩ := p
  obtain rfl : cleared = false := (congrArg SupportReport.normalized hreport).symm
  have hrests := rests_of_runIn_normalizeLegacy (Layout.inside_legacy root).isEmpty_eq_false hlegacy
  obtain rfl : w₁ = w := eq_of_runIn_normalizeLegacy hlegacy
  exact ⟨hrests, forall_text_of_mapM_sourceText hread⟩

/-- **What is true once the support files are provided**, wherever the run began:

* Each helper is provided: some source of the handlers mentions its marker, or its file is there.
* A helper that is reported as written has the text that is made of its template, so it has its
  marker if that text keeps it.
* Another run, with whatever templates, writer and package, has nothing to do and changes nothing
  exactly if the old helper file needs no clearing and the sources can be read.
* This is so if the root was settled, and the root is settled now. -/
theorem provides_of_runOn_ensure (root : String) (set : TemplateSet) (writer : Writer)
    (package : String) (w : Workspace) (report : SupportReport) (w' : Workspace)
    (h : (ensure root set writer package).runOn w = (.ok report, w')) :
    (∀ helper ∈ helpers, helper.Provided root w' ∧
        (helper.path root ∈ report.written →
          ∃ text, w'.file? (helper.path root) = some (.text text) ∧
            helper.Makes root set writer (ModuleView.crateIdent package) text ∧
            (helper.KeepsMarker root set writer (ModuleView.crateIdent package) →
              mentions helper.marker text = true))) ∧
      (∀ set' writer' package',
        (ensure root set' writer' package').runOn w' = (.ok {}, w') ↔ Rested root w') ∧
      (w.Settled root → Rested root w') ∧ w'.Settled root := by
  obtain ⟨p⟩ := nonempty_passage h
  have hlater : Conserves root ((Generator.blank root).Rule fun _ => False) w' w' :=
    (cumulative_conserves root _).refl w'
  have hnone : ∀ name, False → Layout.isReserved name = false := fun _ h => h.elim
  refine ⟨fun helper hhelper => ⟨p.provided rfl hlater helper hhelper, fun hwritten => ?_⟩,
    fun set' writer' package' => ⟨rested_of_runIn_ensure, fun hrested =>
      p.runIn_again rfl hnone hlater hrested set' writer' package'⟩,
    fun hsettled => p.rested hnone hsettled hlater, ?_⟩
  · obtain ⟨text, hfile, hmakes⟩ := p.exists_file? hhelper hwritten
    exact ⟨text, hfile, hmakes, fun hkeeps => hkeeps text hmakes⟩
  · exact (p.provided rfl hlater contextHelper mem_contextHelper).settled mem_contextHelper

/-- A project that has nothing but an empty old helper file. -/
def oldHelper : Workspace where
  tree := .directory [("src", .directory [("handlers", .directory [
    ("helpers.rs", .file (.text ""))])])]

/-- A run on a root with empty templates. -/
def ensureAt (root : String) (w : Workspace) : Except Failure SupportReport × Workspace :=
  (ensure root (Generator.blank root).templates (Generator.blank root).writer "shop").runOn w

/-- A run that succeeds has a report. -/
theorem exists_report_of_isOk {run : Except Failure SupportReport × Workspace}
    (h : run.1.isOk = true) : ∃ report, run = (.ok report, run.2) := by
  obtain ⟨outcome, w⟩ := run
  cases outcome with
  | error failure => cases h
  | ok report => exact ⟨report, rfl⟩

/-- A run that clears the old helper file and writes both helpers, and the next. -/
theorem provides_of_runOn_ensure_oldHelper :
    ∃ report, ensureAt "." oldHelper = (.ok report, (ensureAt "." oldHelper).2) ∧
      (∀ helper ∈ helpers, helper.Provided "." (ensureAt "." oldHelper).2) ∧
      ensureAt "." (ensureAt "." oldHelper).2 = (.ok {}, (ensureAt "." oldHelper).2) := by
  have hsettled : oldHelper.Settled "." := by
    intro above habove
    rw [show Workspace.departed (oldHelper.route ".") [] = [] from by decide] at habove
    cases habove
  have hok : (ensureAt "." oldHelper).1.isOk = true := by decide +kernel
  obtain ⟨report, hrun⟩ := exists_report_of_isOk hok
  obtain ⟨hhelpers, hagain, hrested, -⟩ := provides_of_runOn_ensure "."
    (Generator.blank ".").templates (Generator.blank ".").writer "shop" oldHelper report _ hrun
  exact ⟨report, hrun, fun helper hhelper => (hhelpers helper hhelper).1,
    (hagain _ _ _).mpr (hrested hsettled)⟩

/-- Below `new/..`, the old helper file is cleared in the second run. -/
theorem not_forall_runOn_ensure_again : ¬ ∀ (root : String) (set : TemplateSet) (writer : Writer)
    (package : String) (w : Workspace) (report : SupportReport) (w' : Workspace),
    (ensure root set writer package).runOn w = (.ok report, w') →
      (ensure root set writer package).runOn w' = (.ok {}, w') := by
  intro hall
  obtain ⟨hok, hcleared⟩ : (ensureAt "new/.." oldHelper).1.isOk = true ∧
      (ensureAt "new/.." (ensureAt "new/.." oldHelper).2).1.toOption.any (·.normalized) = true := by
    decide +kernel
  obtain ⟨report, hrun⟩ := exists_report_of_isOk hok
  have hagain : ensureAt "new/.." (ensureAt "new/.." oldHelper).2 =
      (.ok {}, (ensureAt "new/.." oldHelper).2) := hall _ _ _ _ _ report _ hrun
  rw [hagain] at hcleared
  cases hcleared

end Runs

end Support

namespace Generator

/-- **There is nothing left to do about the support files** once they are provided, whatever
modules are generated after that. -/
theorem runIn_supportWork_again {g : Generator} {requested : String → Prop}
    {w w' w'' : Workspace} (hforce : g.options.force = false)
    (hrequested : ∀ name, requested name → Layout.isReserved name = false)
    (hsettled : w.Settled g.options.outputDir) {report : SupportReport}
    (hrun : runIn g.supportWork w = (.ok report, w'))
    (hlater : Conserves g.options.outputDir (g.Rule requested) w' w'') :
    runIn g.supportWork w'' = (.ok {}, w'') := by
  obtain ⟨p⟩ := Support.nonempty_passage hrun
  exact p.runIn_again hforce hrequested hlater (p.rested hrequested hsettled hlater) _ _ _

end Generator

end ServiceGen
