import ServiceGen.Proofs.Generation
import ServiceGen.Proofs.ProjectFiles
import ServiceGen.Proofs.RegisteredItems

/-!
# Conserved Projects

What a session may do to the files of a project, as rules about the edits of each file: one for
its modules (`Generator.Rule`), one for the support files (`Support.Rule`). Everything that a
generator does keeps to them, whether it succeeds or fails: `moves_ensureSupport`,
`moves_deposit`, and with them
whole modules (`keeps_generateModule`) and any calls of a session (`keeps_performAll`).
-/

namespace ServiceGen

open Stateful (runIn Moves Cumulative)
open Workspace (Conserves cumulative_conserves)
open Layout (wireNames indexNames helperNames fileNames ownNames moduleDirs)

/-! ### Rules -/

/-- The edits for the support files: the old file is cleared if it has nothing of its own, and
a helper that is missing is written. -/
inductive Support.Rule : EditRule
  | clear {text : String} (hstub : text ≠ legacyStub) (hstale : isStale text = true) :
      Rule (helperNames "helpers.rs") (some (.text text)) legacyStub
  | helper {file : String} (hfile : file = "context.rs" ∨ file = "response.rs") (text : String) :
      Rule (helperNames file) none text

namespace Generator

variable {requested : String → Prop}

/-- What index files are given: the helpers and the modules of the given names. -/
def Declarable (requested : String → Prop) (name : String) : Prop :=
  name = "context" ∨ name = "response" ∨ ∃ module, requested module ∧ name = snakeCase module

/-- The edits for modules of the given names: an item is registered, a module is declared, and
a file of one of the modules is written if it is missing or files are replaced. -/
inductive Rule (g : Generator) (requested : String → Prop) : EditRule
  | item (item : String) {markers : List String}
      (hmarkers : markers = Registration.logicMarkers ∨ markers = Registration.handlerMarkers)
      (text : String) :
      Rule g requested wireNames (some (.text text)) (Registration.insertItem text item markers).2
  | declaration {dir : String} (hdir : dir ∈ moduleDirs) {name : String}
      (hname : Declarable requested name) (text : String) :
      Rule g requested (indexNames dir) (some (.text text))
        (Registration.declareModule text name).2
  | file {name : String} (hname : requested name) {names : List String}
      (hnames : names ∈ fileNames (snakeCase (snakeCase name)) g.options.withTests)
      {before : Option FileContent} (hbefore : before = none ∨ g.options.force = true)
      (text : String) : Rule g requested names before text

/-- The edits of a whole session. -/
def ProjectRule (g : Generator) (requested : String → Prop) : EditRule :=
  fun names before text => Support.Rule names before text ∨ g.Rule requested names before text

/-! ### What a rule allows for the generator's own files -/

section OwnFiles

variable {g : Generator} {names : List String} {before : Option FileContent} {text : String}

/-- A list in a text is given an item. -/
def Registers (before after : String) : Prop :=
  ∃ item markers, (markers = Registration.logicMarkers ∨ markers = Registration.handlerMarkers) ∧
    after = (Registration.insertItem before item markers).2

/-- The files of requested modules are none that the generator keeps for itself. -/
theorem not_mem_ownNames (hrequested : ∀ name, requested name → Layout.isReserved name = false)
    {name : String} (hname : requested name) {withTests : Bool}
    (hnames : names ∈ fileNames (snakeCase (snakeCase name)) withTests) : names ∉ ownNames :=
  Layout.not_mem_fileNames (Layout.not_mem_ownedNames_snakeCase (hrequested name hname)) hnames

/-- What is written to the registration file of a project. -/
theorem ProjectRule.of_wire (hrequested : ∀ name, requested name → Layout.isReserved name = false)
    {before : Option FileContent} (h : g.ProjectRule requested wireNames before text) :
    ∃ old, before = some (.text old) ∧ Registers old text := by
  generalize hnames : wireNames = names at h
  rcases h with h | h
  · cases h <;> simp [wireNames, helperNames] at hnames
  · cases h with
    | item item hmarkers old => exact ⟨old, rfl, item, _, hmarkers, rfl⟩
    | declaration hdir hname old => simp [wireNames, indexNames] at hnames
    | file hname hmem hbefore text =>
        subst hnames
        exact absurd (by decide) (not_mem_ownNames hrequested hname hmem)

/-- What is written to an index file of a project. -/
theorem ProjectRule.of_index (hrequested : ∀ name, requested name → Layout.isReserved name = false)
    {dir : String} (hdir : dir ∈ moduleDirs) {before : Option FileContent}
    (h : g.ProjectRule requested (indexNames dir) before text) :
    ∃ old name, before = some (.text old) ∧ Declarable requested name ∧
      text = (Registration.declareModule old name).2 := by
  generalize hnames : indexNames dir = names at h
  rcases h with h | h
  · cases h with
    | clear hstub hstale => simp [indexNames, helperNames] at hnames
    | helper hfile text => rcases hfile with rfl | rfl <;> simp [indexNames, helperNames] at hnames
  · cases h with
    | item item hmarkers old => simp [wireNames, indexNames] at hnames
    | declaration hdir hname old => exact ⟨old, _, rfl, hname, rfl⟩
    | file hname hmem hbefore text =>
        subst hnames
        refine absurd ?_ (not_mem_ownNames hrequested hname hmem)
        exact List.mem_cons_of_mem _ (List.mem_append_left _ (List.mem_map_of_mem hdir))

/-- What is written to the old helper file of a project. -/
theorem ProjectRule.of_legacy
    (hrequested : ∀ name, requested name → Layout.isReserved name = false)
    {before : Option FileContent}
    (h : g.ProjectRule requested (helperNames "helpers.rs") before text) :
    text = Support.legacyStub ∧ ∃ old, before = some (.text old) ∧ old ≠ Support.legacyStub ∧
      Support.isStale old = true := by
  generalize hnames : helperNames "helpers.rs" = names at h
  rcases h with h | h
  · cases h with
    | clear hstub hstale => exact ⟨rfl, _, rfl, hstub, hstale⟩
    | helper hfile text => rcases hfile with rfl | rfl <;> simp [helperNames] at hnames
  · cases h with
    | item item hmarkers old => simp [wireNames, helperNames] at hnames
    | declaration hdir hname old => simp [helperNames, indexNames] at hnames
    | file hname hmem hbefore text =>
        subst hnames
        exact absurd (by decide) (not_mem_ownNames hrequested hname hmem)

end OwnFiles

end Generator

/-! ### Support files -/

namespace Support

variable {root : String} {T : EditRule}

/-- What clearing the old file does. -/
theorem runIn_normalizeLegacy (path : String) (w : Workspace) :
    runIn (normalizeLegacy path) w =
      match w.file? path with
      | none => (.ok false, w)
      | some (.binary _) => (.error (.file .read path .notText), w)
      | some (.text text) =>
        if text == legacyStub || !isStale text then (.ok false, w)
        else match w.withText path legacyStub with
          | .ok w' => (.ok true, w')
          | .error fault => (.error (.file .write path fault), w) := by
  rw [normalizeLegacy, Stateful.runIn_get_bind, Workspace.isFile_eq]
  cases hfile : w.file? path with
  | none => rfl
  | some content =>
      rw [Option.isSome_some, if_neg (by simp), Stateful.runIn_bind, Work.runIn_read,
        Workspace.text_eq hfile]
      cases content with
      | binary bytes => rfl
      | text text =>
          change runIn (if (text == legacyStub || !isStale text) = true then return false
            else do
              Work.write path legacyStub
              return true) w = _
          dsimp only
          split
          · rfl
          · rw [Stateful.runIn_bind, Work.runIn_write]
            cases w.withText path legacyStub <;> rfl

/-- The old helpers are made a stub where they are stale. -/
theorem moves_normalizeLegacy (root : String)
    (hT : ∀ text, text ≠ legacyStub → isStale text = true →
      T (helperNames "helpers.rs") (some (.text text)) legacyStub) :
    Moves (Conserves root T) (normalizeLegacy (Layout.legacyHelperPath root)) := by
  intro w
  have hrefl := (cumulative_conserves root T).refl w
  rw [runIn_normalizeLegacy]
  cases hfile : w.file? (Layout.legacyHelperPath root) with
  | none => exact hrefl
  | some content =>
      cases content with
      | binary bytes => exact hrefl
      | text text =>
          dsimp only
          split
          · exact hrefl
          · rename_i hstale
            rw [Bool.or_eq_true, not_or, beq_iff_eq, Bool.not_eq_true'] at hstale
            cases hwrite : w.withText (Layout.legacyHelperPath root) legacyStub with
            | error fault => exact hrefl
            | ok w' =>
                refine Workspace.conserves_withText (Layout.inside_legacy root) hwrite fun _ => ?_
                rw [(Workspace.file?_eq_some_iff.mp hfile).2.2]
                exact hT text hstale.1 (by simpa using hstale.2)

/-- Reading the sources changes nothing. -/
theorem moves_sourcesBelow {R : Workspace → Workspace → Prop} (hR : Cumulative R) (dir : String) :
    Moves R (sourcesBelow dir) := by
  rw [sourcesBelow]
  refine .bind hR (fun w => hR.refl w) fun w => ?_
  split
  · refine .mapM hR fun file _ w => ?_
    rw [Work.runIn_orFault]
    exact hR.refl w
  · exact .pure hR []

/-- A helper that is missing is provided under its own name. -/
theorem moves_provide {file : String} (hfile : file = "context.rs" ∨ file = "response.rs")
    (hT : ∀ text, T (helperNames file) none text) (set : TemplateSet) (writer : Writer)
    (crate : String) (sources : List String) (kind : TemplateKind) (marker : String) :
    Moves (Conserves root T) (provide set writer crate sources kind marker
      (joinPath (Layout.handlersDir root) file)) := by
  have hR := cumulative_conserves root T
  have hinside : Workspace.Inside root (joinPath (Layout.handlersDir root) file)
      (helperNames file) := by
    rcases hfile with rfl | rfl
    · exact Layout.inside_context root
    · exact Layout.inside_response root
  rw [provide]
  split
  · exact .pure hR _
  · refine .bind hR (fun w => hR.refl w) fun w => ?_
    split
    · exact .pure hR _
    · refine .bind hR (fun w => ?_) fun content => .bind hR ?_ fun outcome => .pure hR _
      · cases set.renderSupport kind crate <;> exact hR.refl w
      · refine Writer.moves_write writer content hinside fun before text hnew => ?_
        rw [hnew.resolve_right (by simp)]
        exact hT text

/-- A helper is declared in the index of the handlers. -/
theorem moves_declare {name : String}
    (hT : ∀ text, T (indexNames "handlers") (some (.text text))
      (Registration.declareModule text name).2) (path : String) :
    Moves (Conserves root T) (declare root name path) := by
  have hR := cumulative_conserves root T
  rw [declare]
  refine .bind hR (fun w => hR.refl w) fun w => ?_
  split
  · exact .bind hR (Registration.moves_changeFile (Layout.inside_index (by decide) root)
      fun text _ => hT text) fun _ => .pure hR _
  · exact .pure hR _

end Support

/-! ### Modules -/

namespace Generator

variable {g : Generator} {requested : String → Prop}

/-- **Providing the support files** keeps to the rule of a session. -/
theorem moves_supportWork (g : Generator) (requested : String → Prop) :
    Moves (Conserves g.options.outputDir (g.ProjectRule requested)) g.supportWork := by
  have hR := cumulative_conserves g.options.outputDir (g.ProjectRule requested)
  have hprovide : ∀ file, file = "context.rs" ∨ file = "response.rs" → ∀ text,
      g.ProjectRule requested (helperNames file) none text :=
    fun file hfile text => Or.inl (.helper hfile text)
  have hdeclare : ∀ name, Declarable requested name → ∀ text,
      g.ProjectRule requested (indexNames "handlers") (some (.text text))
        (Registration.declareModule text name).2 :=
    fun name hname text => Or.inr (.declaration (by decide) hname text)
  exact .bind hR (Support.moves_normalizeLegacy _ fun text hstub hstale =>
      Or.inl (.clear hstub hstale)) fun normalized =>
    .bind hR (Support.moves_sourcesBelow hR _) fun sources =>
      .bind hR (Support.moves_provide (Or.inl rfl) (hprovide _ (Or.inl rfl)) _ _ _ _ _ _)
        fun first =>
      .bind hR (Support.moves_provide (Or.inr rfl) (hprovide _ (Or.inr rfl)) _ _ _ _ _ _)
        fun second =>
          .bind hR (Support.moves_declare (hdeclare _ (Or.inl rfl)) _) fun _ =>
            .bind hR (Support.moves_declare (hdeclare _ (Or.inr (Or.inl rfl))) _) fun _ =>
              .pure hR _

section Registering

variable {T : EditRule}

/-- Registering an item edits the registration file only. -/
theorem moves_registerItem (hreg : g.options.registrationFile = Layout.defaultRegistrationFile)
    {item : String} {markers : List String}
    (hT : ∀ text, T wireNames (some (.text text)) (Registration.insertItem text item markers).2)
    (list : String) :
    Moves (Conserves g.options.outputDir T) (g.registerItem item list markers) := by
  have hR := cumulative_conserves g.options.outputDir T
  have hinside : Workspace.Inside g.options.outputDir g.options.registrationPath wireNames := by
    rw [GeneratorOptions.registrationPath, hreg]
    exact Layout.inside_wire g.options.outputDir
  exact .bind hR (Registration.moves_changeFile hinside fun text _ => hT text) fun _ => .pure hR _

/-- Declares a module in some index files. -/
def declareIn (indexes : List String) (name : String) : Work Unit := do
  for index in indexes do
    let _ ← Registration.declareInFile index name

/-- Declaring a module edits index files only. -/
theorem moves_declareIn {root name : String} {indexes : List String}
    (hindexes : ∀ index ∈ indexes, index ∈ Layout.indexPaths root)
    (hT : ∀ dir ∈ moduleDirs, ∀ text,
      T (indexNames dir) (some (.text text)) (Registration.declareModule text name).2) :
    Moves (Conserves root T) (declareIn indexes name) := by
  have hR := cumulative_conserves root T
  rw [declareIn]
  refine .bind hR (.forIn hR (fun index hindex _ => ?_) _) fun _ => .pure hR _
  obtain ⟨dir, hdir, rfl⟩ := List.mem_map.mp (hindexes index hindex)
  exact .bind hR (Registration.moves_changeFile (Layout.inside_index hdir _)
    fun text _ => hT dir hdir text) fun _ => .pure hR _

/-- The steps of a registration. -/
theorem register_eq (g : Generator) (view : ModuleView) : g.register view = (do
    let first ← g.registerItem view.logicItem "provide_logic!" Registration.logicMarkers
    let second ← g.registerItem view.handlerItem "provide_handlers!" Registration.handlerMarkers
    declareIn (Layout.indexPaths g.options.outputDir) view.module
    return ([first.1, second.1], [first.2, second.2])) := by
  simp only [register, declareIn, bind_assoc, pure_bind]
  rfl

/-- A module is registered and declared where it may be. -/
theorem moves_register (hreg : g.options.registrationFile = Layout.defaultRegistrationFile)
    {view : ModuleView} (hname : Declarable requested view.module) :
    Moves (Conserves g.options.outputDir (g.Rule requested)) (g.register view) := by
  have hR := cumulative_conserves g.options.outputDir (g.Rule requested)
  rw [register_eq]
  exact .bind hR (moves_registerItem hreg (fun text => .item _ (Or.inl rfl) text) _) fun first =>
    .bind hR (moves_registerItem hreg (fun text => .item _ (Or.inr rfl) text) _) fun second =>
      .bind hR (moves_declareIn (fun _ => id) fun dir hdir text => .declaration hdir hname text)
        fun _ => .pure hR _

end Registering

/-! ### Sessions -/

/-- A session conserves its project. -/
def Keeps (g : Generator) (T : EditRule) (s t : Session) : Prop :=
  Conserves g.options.outputDir T s.workspace t.workspace

/-- What sessions keep one after the other is kept. -/
theorem cumulative_keeps (g : Generator) (T : EditRule) : Cumulative (g.Keeps T) :=
  (cumulative_conserves g.options.outputDir T).comap Session.workspace

/-- A session conserves its project, and does nothing about the support files. -/
def Adds (g : Generator) (T : EditRule) (s t : Session) : Prop :=
  t.support = s.support ∧ g.Keeps T s t

/-- What sessions add one after the other is added. -/
theorem cumulative_adds (g : Generator) (T : EditRule) : Cumulative (g.Adds T) where
  refl s := ⟨rfl, (cumulative_keeps g T).refl s⟩
  trans h h' := ⟨h'.1.trans h.1, (cumulative_keeps g T).trans h.2 h'.2⟩

/-- Work on the files moves the workspace of a session. -/
theorem moves_ofWork {α : Type} {T : EditRule} {work : Work α}
    (h : Moves (Conserves g.options.outputDir T) work) :
    Moves (g.Adds T) (Generation.ofWork work) := by
  intro s
  rw [Generation.runIn_ofWork]
  exact ⟨rfl, h s.workspace⟩

/-- **Providing the support files** keeps to the rule of the project. -/
theorem moves_ensureSupport (g : Generator) (requested : String → Prop) :
    Moves (g.Keeps (g.ProjectRule requested)) g.ensureSupport := by
  intro s
  have hwork := moves_supportWork g requested s.workspace
  rw [runIn_ensureSupport]
  cases s.support with
  | some report => exact (cumulative_keeps g _).refl s
  | none =>
      generalize runIn g.supportWork s.workspace = run at hwork
      obtain ⟨outcome, w⟩ := run
      cases outcome <;> exact hwork

/-- **Writing and registering the files of a module** keeps to the rule of modules. -/
theorem moves_deposit (hreg : g.options.registrationFile = Layout.defaultRegistrationFile)
    {name : String} (hname : requested name) {view : ModuleView}
    (hview : view.module = snakeCase name) {rendered : List (String × String)}
    (hrendered : g.renderFiles view = .ok rendered) :
    Moves (g.Adds (g.Rule requested)) (g.deposit view rendered) := by
  have hR := cumulative_adds g (g.Rule requested)
  refine .bind hR (.mapM hR fun file hfile => ?_) fun files =>
    .bind hR (moves_ofWork (moves_register hreg (Or.inr (Or.inr ⟨name, hname, hview⟩))))
      fun registered => .pure hR _
  have hpath : file.1 ∈ Layout.paths g.options.outputDir (snakeCase name) g.options.withTests := by
    have hpaths := paths_of_renderFiles hrendered
    rw [pathsOf, hview] at hpaths
    exact hpaths ▸ List.mem_map_of_mem hfile
  obtain ⟨names, hnames, hinside⟩ := Layout.exists_names_of_mem_paths hpath
  exact .bind hR (moves_ofWork (Writer.moves_write g.writer _ hinside
    fun before text hbefore => .file hname hnames hbefore text)) fun outcome => .pure hR _

/-- A module that can be viewed has no reserved name. -/
theorem isReserved_of_view_eq_ok {document : Option Document} {name : String} {view : ModuleView}
    (h : g.view document name = .ok view) : Layout.isReserved name = false := by
  rw [view_eq] at h
  split at h
  · cases h
  · rename_i hreserved
    simpa using hreserved

/-- **Generating a module** keeps to the rule of the project, for a name that may be requested. -/
theorem keeps_generateModule (hreg : g.options.registrationFile = Layout.defaultRegistrationFile)
    (document : Option Document) {name : String}
    (hname : Layout.isReserved name = false → requested name) :
    Moves (g.Keeps (g.ProjectRule requested)) (g.generateModule document name) := by
  intro s
  have hR := cumulative_keeps g (g.ProjectRule requested)
  rw [runIn_generateModule]
  cases hview : g.view document name with
  | error failure => exact hR.refl s
  | ok view =>
      dsimp only
      rw [runIn_output]
      cases hrendered : g.renderFiles view with
      | error failure => exact hR.refl s
      | ok rendered =>
          refine Moves.bind hR (moves_ensureSupport g requested) (fun _ s => ?_) s
          exact (moves_deposit hreg (hname (isReserved_of_view_eq_ok hview))
            (module_of_view_eq_ok hview) hrendered s).2.mono fun _ _ _ => Or.inr

end Generator

/-! ### Calls -/

/-- What a session is asked for: a module, of a document if there is one, or all modules of a
document. -/
inductive Call
  | module (document : Option Document) (name : String)
  | all (d : Document)

/-- The modules that a call asks for. -/
def Call.names : Call → List String
  | .module _ name => [name]
  | .all d => d.primaryModules

namespace Generator

/-- The session after a call, whether it succeeds or fails. -/
def perform (g : Generator) (s : Session) : Call → Session
  | .module document name => ((g.generateModule document name).runOn s).2
  | .all d => ((g.generateAll d).runOn s).2

/-- The session after some calls. -/
def performAll (g : Generator) (calls : List Call) (s : Session) : Session :=
  calls.foldl g.perform s

/-- The modules that some calls ask for, without those whose name is reserved. -/
def Requested (calls : List Call) (name : String) : Prop :=
  Layout.isReserved name = false ∧ ∃ call ∈ calls, name ∈ call.names

variable {g : Generator}

/-- A call moves a session as its support files and its modules do. -/
theorem moves_perform {R : Session → Session → Prop} (hR : Cumulative R) {call : Call}
    (hsupport : Moves R g.ensureSupport)
    (hmodules : ∀ (document : Option Document), ∀ name ∈ call.names,
      Moves R (g.generateModule document name)) (s : Session) : R s (g.perform s call) := by
  cases call with
  | module document name => exact hmodules document name (List.mem_singleton_self name) s
  | all d => exact moves_generateAll hR hsupport (hmodules (some d)) s

/-- Some calls move a session as each of them does. -/
theorem moves_performAll {R : Session → Session → Prop} (hR : Cumulative R) {calls : List Call}
    (hsupport : Moves R g.ensureSupport)
    (hmodules : ∀ call ∈ calls, ∀ (document : Option Document), ∀ name ∈ call.names,
      Moves R (g.generateModule document name)) (s : Session) : R s (g.performAll calls s) := by
  induction calls generalizing s with
  | nil => exact hR.refl s
  | cons call calls ih =>
      obtain ⟨hcall, hcalls⟩ := List.forall_mem_cons.mp hmodules
      exact hR.trans (moves_perform hR hsupport hcall s) (ih hcalls _)

/-- **A session keeps to its rule**, over any calls. -/
theorem keeps_performAll (hreg : g.options.registrationFile = Layout.defaultRegistrationFile)
    (calls : List Call) (s : Session) :
    g.Keeps (g.ProjectRule (Requested calls)) s (g.performAll calls s) :=
  moves_performAll (cumulative_keeps g _) (moves_ensureSupport g _)
    (fun call hcall document _ hname =>
      keeps_generateModule hreg document fun hfree => ⟨hfree, call, hcall, hname⟩) s

end Generator

end ServiceGen
