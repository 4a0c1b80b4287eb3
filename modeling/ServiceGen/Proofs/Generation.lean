import ServiceGen.Generator
import ServiceGen.Proofs.FileSets
import ServiceGen.Proofs.Sequencing
import ServiceGen.Proofs.Strictness

/-!
# Runs of a Generator

What comes out of generating a module, whatever the files of the project are. A run fails with
the failure of its view, or else only with one of output: of rendering, of the support files,
of the file system (`of_generateModule_eq_error`). A run that succeeds reports the files
that the layout gives the module, in that order (`of_generateModule_eq_ok`), and a batch does
so for some of its modules, in their order (`BatchRun.sublist`).
-/

namespace ServiceGen

/-- The failures of files: of the support files, of the file system. -/
def Failure.OfFiles : Failure → Prop
  | .support _ => True
  | .file .. => True
  | _ => False

/-- The failures of output: of rendering, and those of files. -/
def Failure.OfOutput : Failure → Prop
  | .template _ => True
  | failure => failure.OfFiles

/-- A failure of files is one of output. -/
theorem Failure.OfFiles.ofOutput {failure : Failure} (h : failure.OfFiles) : failure.OfOutput := by
  cases failure with
  | template name => trivial
  | _ => exact h

/-! ### Batches put together -/

namespace BatchReport

/-- A batch with what another one did after it. -/
def append (a b : BatchReport) : BatchReport where
  attempted := a.attempted + b.attempted
  succeeded := a.succeeded + b.succeeded
  failures := a.failures ++ b.failures
  reports := a.reports ++ b.reports

/-- What a batch did after nothing is what it did. -/
theorem empty_append (b : BatchReport) : ({} : BatchReport).append b = b := by
  simp [append]

/-- Nothing is done after a batch by one of no modules. -/
theorem append_empty (a : BatchReport) : a.append {} = a := by
  simp [append]

/-- A module that is reported between two batches is recorded at the end of the first. -/
theorem append_report (a b : BatchReport) (name : String) (report : ModuleReport) :
    (a.record name (.ok report)).append b = a.append
      { b with
        attempted := b.attempted + 1
        succeeded := b.succeeded + 1
        reports := report :: b.reports } := by
  simp [append, record, Nat.add_comm, Nat.add_left_comm]

/-- A module that fails between two batches is recorded at the end of the first. -/
theorem append_failure (a b : BatchReport) (name : String) (failure : Failure) :
    (a.record name (.error failure)).append b = a.append
      { b with
        attempted := b.attempted + 1
        failures := (name, failure) :: b.failures } := by
  simp [append, record, Nat.add_comm, Nat.add_left_comm]

end BatchReport

open Stateful (runIn FailsOnly)

/-! ### Failures of the file system -/

namespace Work

variable {α : Type}

/-- A fault is reported as a failure of files. -/
theorem failsOnly_orFault (action : FileAction) (path : String) (outcome : Except FileFault α) :
    FailsOnly Failure.OfFiles (orFault action path outcome) := by
  cases outcome with
  | ok a => exact FailsOnly.pure a
  | error fault => exact FailsOnly.throw trivial

/-- Reading a file fails with one. -/
theorem failsOnly_read (path : String) (action : FileAction) :
    FailsOnly Failure.OfFiles (read path action) :=
  FailsOnly.get.bind fun w => failsOnly_orFault action path (w.text path)

/-- So does writing a file. -/
theorem failsOnly_write (path text : String) (action : FileAction) :
    FailsOnly Failure.OfFiles (write path text action) :=
  FailsOnly.get.bind fun w =>
    (failsOnly_orFault action path (w.withText path text)).bind FailsOnly.set

/-- So does making directories. -/
theorem failsOnly_makeDirectories (path : String) :
    FailsOnly Failure.OfFiles (makeDirectories path) :=
  FailsOnly.get.bind fun w =>
    (failsOnly_orFault _ path (w.withDirectories path)).bind FailsOnly.set

end Work

/-- **A writer fails with failures of files only**: to format a text does not fail. -/
theorem Writer.failsOnly_write (writer : Writer) (path content : String) (force : Bool) :
    FailsOnly Failure.OfFiles (writer.write path content force) := by
  have hfile : FailsOnly Failure.OfFiles (do
      Work.write path (writer.contentFor path content) .writeFile
      return WriteOutcome.written) :=
    (Work.failsOnly_write _ _ _).bind fun _ => FailsOnly.pure _
  rw [Writer.write]
  refine FailsOnly.get.bind fun w => ?_
  split
  · exact FailsOnly.pure _
  · split
    · exact (Work.failsOnly_makeDirectories _).bind fun _ => hfile
    · exact hfile

/-- Changing a file does, whatever the change says. -/
theorem Registration.failsOnly_changeFile (path : String) (change : String → Outcome × String) :
    FailsOnly Failure.OfFiles (changeFile path change) := by
  rw [changeFile]
  refine FailsOnly.get.bind fun w => ?_
  split
  · exact FailsOnly.pure _
  · refine (Work.failsOnly_read _ _).bind fun source => ?_
    generalize change source = changed
    obtain ⟨outcome, text⟩ := changed
    dsimp only
    split
    · exact (Work.failsOnly_write _ _ _).bind fun _ => FailsOnly.pure _
    · exact FailsOnly.pure _

/-! ### Steps of a session -/

namespace Generation

variable {α : Type} {P : Failure → Prop}

/-- What work gives in a session is what it gives in that state. -/
theorem runOn_eq_runIn (work : Generation α) (s : Session) : work.runOn s = runIn work s := rfl

/-- Work of a session that gives something of a kind succeeds. -/
theorem exists_runOn_of_any {work : Generation α} {s : Session}
    {p : α → Bool} (h : (work.runOn s).1.toOption.any p = true) :
    ∃ a t, work.runOn s = (.ok a, t) ∧ p a = true := by
  generalize work.runOn s = run at h
  obtain ⟨outcome, t⟩ := run
  cases outcome with
  | error failure => cases h
  | ok a => exact ⟨a, t, rfl, h⟩

/-- Work on the files changes the workspace of a session only. -/
theorem runIn_ofWork (work : Work α) (s : Session) :
    runIn (ofWork work) s =
      ((runIn work s.workspace).1, { s with workspace := (runIn work s.workspace).2 }) := by
  rw [ofWork, Stateful.runIn_bind]
  have hget : runIn (MonadState.get : Generation Session) s = (.ok s, s) := rfl
  have hwork : work.runOn s.workspace = runIn work s.workspace := rfl
  simp only [hget, hwork]
  cases (runIn work s.workspace).1 <;> rfl

/-- An outcome by itself changes nothing. -/
theorem runIn_ofExcept (outcome : Except Failure α) (s : Session) :
    runIn (ofWork (Work.ofExcept outcome)) s = (outcome, s) := by
  rw [runIn_ofWork]
  cases outcome <;> rfl

/-- Work on the files fails in a session as it does by itself. -/
theorem failsOnly_ofWork {work : Work α} (h : FailsOnly P work) : FailsOnly P (ofWork work) := by
  intro s failure t hrun
  rw [runIn_ofWork, Prod.mk.injEq] at hrun
  exact h s.workspace failure _ (Prod.ext hrun.1 rfl)

end Generation

namespace Generator

/-- What a session does once for its support files. -/
def supportWork (g : Generator) : Work SupportReport :=
  Support.ensure g.options.outputDir g.templates g.writer g.options.package

/-- Providing the support files does their work on the workspace, unless it has been done. -/
theorem runIn_ensureSupport (g : Generator) (s : Session) :
    runIn g.ensureSupport s =
      match s.support with
      | some report => (.ok report, s)
      | none =>
        match runIn g.supportWork s.workspace with
        | (.ok report, w) => (.ok report, { workspace := w, support := some report })
        | (.error cause, w) => (.error (.support cause), { workspace := w, support := none }) := by
  obtain ⟨w, support⟩ := s
  rw [ensureSupport, supportWork, Stateful.runIn_get_bind]
  generalize Support.ensure _ _ _ _ = work
  cases support with
  | some report => rfl
  | none =>
      dsimp only
      rw [Stateful.runIn_get_bind]
      have hwork : work.runOn w = runIn work w := rfl
      rw [hwork]
      generalize runIn work w = run
      obtain ⟨outcome, w'⟩ := run
      cases outcome <;> rfl

/-- Providing the support files fails with a failure of that. -/
theorem failsOnly_ensureSupport (g : Generator) :
    FailsOnly Failure.OfFiles g.ensureSupport := by
  rw [ensureSupport]
  refine FailsOnly.get.bind fun s => ?_
  split
  · exact FailsOnly.pure _
  · refine FailsOnly.get.bind fun s => ?_
    generalize Work.runOn _ _ = run
    obtain ⟨outcome, w⟩ := run
    cases outcome with
    | ok report => exact (FailsOnly.set _).bind fun _ => FailsOnly.pure _
    | error cause => exact (FailsOnly.set _).bind fun _ => FailsOnly.throw trivial

/-- Rendering fails with a failure of a template. -/
theorem ofOutput_of_renderFiles {g : Generator} {view : ModuleView} {failure : Failure}
    (h : g.renderFiles view = .error failure) : failure.OfOutput := by
  refine Outcome.of_mapM_eq_error (fun entry failure hentry => ?_) h
  obtain ⟨kind, path⟩ := entry
  simp only [TemplateSet.renderModule, TemplateSet.render] at hentry
  split at hentry
  · cases hentry
  · cases hentry
    trivial

/-- Registering an item does. -/
theorem failsOnly_registerItem (g : Generator) (item list : String) (markers : List String) :
    FailsOnly Failure.OfFiles (g.registerItem item list markers) :=
  (Registration.failsOnly_changeFile _ _).bind fun _ => FailsOnly.pure _

/-- **Registering a module** fails with failures of files only. -/
theorem failsOnly_register (g : Generator) (view : ModuleView) :
    FailsOnly Failure.OfFiles (g.register view) := by
  rw [register]
  refine (failsOnly_registerItem _ _ _ _).bind fun first =>
    (failsOnly_registerItem _ _ _ _).bind fun second => ?_
  refine FailsOnly.bind (FailsOnly.forIn (fun index _ => ?_) _ _) fun _ => FailsOnly.pure _
  exact (Registration.failsOnly_changeFile _ _).bind fun _ => FailsOnly.pure _

/-! ### Views -/

/-- The document that a module is taken from: the given one, or one made up for the module. -/
def documentFor (document : Option Document) (name : String) : Except Failure Document :=
  match document with
  | some d => .ok d
  | none => Scaffold.document name

/-- The steps to a view, each with its own failure. -/
theorem view_eq (g : Generator) (document : Option Document) (name : String) :
    g.view document name =
      if Layout.isReserved name then .error (.reservedModule name)
      else documentFor document name >>= fun d =>
        if (ApiModule.ofDocument d name).isEmpty then .error (.noOperations name)
        else ModuleView.build (ApiModule.ofDocument d name) g.options.package (g.resolver d) := by
  rw [view]
  split
  · rfl
  · have hmodule : ∀ d : Document,
        (do
          if (ApiModule.ofDocument d name).isEmpty then throw (.noOperations name)
          ModuleView.build (ApiModule.ofDocument d name) g.options.package (g.resolver d)) =
          if (ApiModule.ofDocument d name).isEmpty then .error (.noOperations name)
          else ModuleView.build (ApiModule.ofDocument d name) g.options.package (g.resolver d) := by
      intro d
      split <;> rfl
    cases document with
    | some d => exact hmodule d
    | none => exact bind_congr hmodule

/-- The view of a module has its name in snake case. -/
theorem module_of_view_eq_ok {g : Generator} {document : Option Document} {name : String}
    {view : ModuleView} (h : g.view document name = .ok view) :
    view.module = snakeCase name := by
  rw [view_eq] at h
  split at h
  · cases h
  · obtain ⟨d, -, h⟩ := Outcome.bind_eq_ok.mp h
    split at h
    · cases h
    · rw [ModuleView.build] at h
      obtain ⟨endpoints, -, h⟩ := Outcome.bind_eq_ok.mp h
      obtain ⟨models, -, h⟩ := Outcome.bind_eq_ok.mp h
      cases h
      rfl

/-! ### Runs -/

/-- What a run does with rendered files once the support files are provided. -/
def deposit (g : Generator) (view : ModuleView) (rendered : List (String × String)) :
    Generation ModuleReport := do
  let files ← rendered.mapM fun (path, content) => do
    return (path, ← Generation.ofWork (g.writer.write path content g.options.force))
  let (injections, instructions) ← Generation.ofWork (g.register view)
  return { module := view.module, files, injections, instructions }

/-- What a run does with rendered files: everything that touches files. -/
def deliver (g : Generator) (view : ModuleView) (rendered : List (String × String)) :
    Generation ModuleReport := do
  let _ ← g.ensureSupport
  g.deposit view rendered

/-- What a run does with a view. -/
def output (g : Generator) (view : ModuleView) : Generation ModuleReport := do
  let rendered ← Generation.ofWork (Work.ofExcept (g.renderFiles view))
  g.deliver view rendered

/-- A run makes its view first. -/
theorem runIn_generateModule (g : Generator) (document : Option Document) (name : String)
    (s : Session) :
    runIn (g.generateModule document name) s =
      match g.view document name with
      | .ok view => runIn (g.output view) s
      | .error failure => (.error failure, s) := by
  have hsteps : g.generateModule document name =
      (Generation.ofWork (Work.ofExcept (g.view document name)) >>= g.output) := rfl
  rw [hsteps, Stateful.runIn_bind, Generation.runIn_ofExcept]
  cases g.view document name <;> rfl

/-- Output renders all files first. -/
theorem runIn_output (g : Generator) (view : ModuleView) (s : Session) :
    runIn (g.output view) s =
      match g.renderFiles view with
      | .ok rendered => runIn (g.deliver view rendered) s
      | .error failure => (.error failure, s) := by
  rw [output, Stateful.runIn_bind, Generation.runIn_ofExcept]
  cases g.renderFiles view <;> rfl

/-- What touches files fails with failures of files only. -/
theorem failsOnly_deliver (g : Generator) (view : ModuleView)
    (rendered : List (String × String)) :
    FailsOnly Failure.OfFiles (g.deliver view rendered) := by
  refine (failsOnly_ensureSupport g).bind fun _ =>
    (FailsOnly.mapM (fun file => ?_) _).bind fun files =>
      (Generation.failsOnly_ofWork (failsOnly_register g view)).bind fun registered =>
        FailsOnly.pure _
  exact (Generation.failsOnly_ofWork (Writer.failsOnly_write _ _ _ _)).bind fun outcome =>
    FailsOnly.pure _

/-- Output fails with failures of output only. -/
theorem failsOnly_output (g : Generator) (view : ModuleView) :
    FailsOnly Failure.OfOutput (g.output view) := by
  intro s failure t hrun
  rw [runIn_output] at hrun
  cases hrendered : g.renderFiles view with
  | error other =>
      rw [hrendered] at hrun
      cases hrun
      exact ofOutput_of_renderFiles hrendered
  | ok rendered =>
      rw [hrendered] at hrun
      exact (failsOnly_deliver g view rendered s failure t hrun).ofOutput

/-- **What a run can fail on**: the failure of its view, or else one of output. -/
theorem of_generateModule_eq_error {g : Generator} {document : Option Document} {name : String}
    {failure : Failure} {s t : Session}
    (h : runIn (g.generateModule document name) s = (.error failure, t)) :
    g.view document name = .error failure ∨ failure.OfOutput := by
  rw [runIn_generateModule] at h
  cases hview : g.view document name with
  | error other =>
      rw [hview] at h
      cases h
      exact Or.inl rfl
  | ok view =>
      rw [hview] at h
      exact Or.inr (failsOnly_output g view s failure t h)

/-! ### Reports -/

/-- The paths of the files of a module, in the order in which they are written. -/
def pathsOf (g : Generator) (module : String) : List String :=
  Layout.paths g.options.outputDir module g.options.withTests

/-- Rendered files come under the paths of the module. -/
theorem paths_of_renderFiles {g : Generator} {view : ModuleView}
    {rendered : List (String × String)} (h : g.renderFiles view = .ok rendered) :
    rendered.map (·.1) = g.pathsOf view.module := by
  refine Outcome.map_of_mapM_eq_ok (fun entry file hfile => ?_) h
  obtain ⟨content, -, hfile⟩ := Outcome.bind_eq_ok.mp hfile
  cases hfile
  rfl

/-- The report of some output: the module, and a file for each of those that are rendered. -/
theorem exists_rendered_of_output_eq_ok {g : Generator} {view : ModuleView} {report : ModuleReport}
    {s t : Session} (h : runIn (g.output view) s = (.ok report, t)) :
    report.module = view.module ∧ ∃ rendered, g.renderFiles view = .ok rendered ∧
      report.files.map (·.1) = rendered.map (·.1) := by
  obtain ⟨rendered, s₁, hrendered, h⟩ := Stateful.runIn_bind_eq_ok h
  obtain ⟨support, s₂, -, h⟩ := Stateful.runIn_bind_eq_ok h
  obtain ⟨files, s₃, hfiles, h⟩ := Stateful.runIn_bind_eq_ok h
  obtain ⟨registered, s₄, -, h⟩ := Stateful.runIn_bind_eq_ok h
  cases h
  rw [Generation.runIn_ofExcept] at hrendered
  refine ⟨rfl, rendered, congrArg Prod.fst hrendered, ?_⟩
  refine Stateful.map_of_runIn_mapM (fun file written s t hwrite => ?_) hfiles
  obtain ⟨outcome, s', -, hwrite⟩ := Stateful.runIn_bind_eq_ok hwrite
  cases hwrite
  rfl

/-- A run that succeeds has a view, and a file for each of those that are rendered from it. -/
theorem exists_view_of_generateModule_eq_ok {g : Generator} {document : Option Document}
    {name : String} {report : ModuleReport} {s t : Session}
    (h : runIn (g.generateModule document name) s = (.ok report, t)) :
    ∃ view rendered, g.view document name = .ok view ∧ report.module = view.module ∧
      g.renderFiles view = .ok rendered ∧ report.files.map (·.1) = rendered.map (·.1) := by
  rw [runIn_generateModule] at h
  cases hview : g.view document name with
  | error failure =>
      rw [hview] at h
      cases h
  | ok view =>
      rw [hview] at h
      obtain ⟨hmodule, rendered, hrendered, hfiles⟩ := exists_rendered_of_output_eq_ok h
      exact ⟨view, rendered, rfl, hmodule, hrendered, hfiles⟩

/-- **The report of a run**: the module in snake case, and the paths that the layout gives
it. -/
theorem of_generateModule_eq_ok {g : Generator} {document : Option Document} {name : String}
    {report : ModuleReport} {s t : Session}
    (h : runIn (g.generateModule document name) s = (.ok report, t)) :
    report.module = snakeCase name ∧ report.files.map (·.1) = g.pathsOf (snakeCase name) := by
  obtain ⟨view, rendered, hview, hmodule, hrendered, hfiles⟩ :=
    exists_view_of_generateModule_eq_ok h
  rw [← module_of_view_eq_ok hview, hfiles]
  exact ⟨hmodule, paths_of_renderFiles hrendered⟩

/-! ### Batches -/

/-- A batch over some names, module by module. -/
inductive BatchRun (g : Generator) (d : Document) :
    List String → Session → BatchReport → Session → Prop
  /-- Nothing is left to do. -/
  | done (s : Session) : BatchRun g d [] s {} s
  /-- A module is generated. -/
  | report {name : String} {names : List String} {report : ModuleReport} {batch : BatchReport}
      {s s' t : Session} (hrun : runIn (g.generateModule (some d) name) s = (.ok report, s'))
      (hrest : BatchRun g d names s' batch t) :
      BatchRun g d (name :: names) s
        { batch with
          attempted := batch.attempted + 1
          succeeded := batch.succeeded + 1
          reports := report :: batch.reports } t
  /-- A module fails. -/
  | failure {name : String} {names : List String} {failure : Failure} {batch : BatchReport}
      {s s' t : Session} (hrun : runIn (g.generateModule (some d) name) s = (.error failure, s'))
      (hrest : BatchRun g d names s' batch t) :
      BatchRun g d (name :: names) s
        { batch with
          attempted := batch.attempted + 1
          failures := (name, failure) :: batch.failures } t

/-- Each list of names has a batch. -/
theorem exists_batchRun (g : Generator) (d : Document) (names : List String) (s : Session) :
    ∃ batch t, BatchRun g d names s batch t := by
  induction names generalizing s with
  | nil => exact ⟨{}, s, .done s⟩
  | cons name names ih =>
      cases hrun : runIn (g.generateModule (some d) name) s with
      | mk outcome s' =>
          obtain ⟨batch, t, hrest⟩ := ih s'
          cases outcome with
          | ok report => exact ⟨_, t, .report hrun hrest⟩
          | error failure => exact ⟨_, t, .failure hrun hrest⟩

/-- A batch goes on from what is recorded of its first module, in the session that this leaves. -/
theorem run_generateModules_cons {g : Generator} {d : Document} {name : String}
    {outcome : Except Failure ModuleReport} {s s' : Session}
    (h : runIn (g.generateModule (some d) name) s = (outcome, s')) (recorded : BatchReport)
    (names : List String) :
    (g.generateModules d recorded (name :: names)).run s =
      (g.generateModules d (recorded.record name outcome) names).run s' := by
  have hfirst : StateT.run (ExceptT.run (g.generateModule (some d) name)) s = (outcome, s') := h
  rw [generateModules, StateT.run_bind, hfirst]
  rfl

/-- **What a batch does**, module by module: it comes after what was recorded before. -/
theorem BatchRun.run_generateModules {g : Generator} {d : Document} {names : List String}
    {batch : BatchReport} {s t : Session} (h : BatchRun g d names s batch t)
    (recorded : BatchReport) :
    (g.generateModules d recorded names).run s = (recorded.append batch, t) := by
  induction h generalizing recorded with
  | done s => rw [BatchReport.append_empty]; rfl
  | report hrun hrest ih =>
      rw [run_generateModules_cons hrun, ih, BatchReport.append_report]
  | failure hrun hrest ih =>
      rw [run_generateModules_cons hrun, ih, BatchReport.append_failure]

/-- What a batch does is a run over its names. -/
theorem batchRun (g : Generator) (d : Document) (names : List String) (s : Session) :
    BatchRun g d names s ((g.generateModules d {} names).run s).1
      ((g.generateModules d {} names).run s).2 := by
  obtain ⟨batch, t, h⟩ := exists_batchRun g d names s
  have hrun := h.run_generateModules {}
  rw [BatchReport.empty_append] at hrun
  rw [hrun]
  exact h

/-- A failure of a batch is that of a run for one of its modules. -/
theorem BatchRun.exists_run_of_mem_failures {g : Generator} {d : Document} {names : List String}
    {batch : BatchReport} {s t : Session} (h : BatchRun g d names s batch t)
    {entry : String × Failure} (hentry : entry ∈ batch.failures) :
    entry.1 ∈ names ∧
      ∃ u v, runIn (g.generateModule (some d) entry.1) u = (.error entry.2, v) := by
  induction h with
  | done s => cases hentry
  | report hrun hrest ih =>
      obtain ⟨hname, hfound⟩ := ih hentry
      exact ⟨List.mem_cons_of_mem _ hname, hfound⟩
  | failure hrun hrest ih =>
      rcases List.mem_cons.mp hentry with rfl | hentry
      · exact ⟨List.mem_cons_self, _, _, hrun⟩
      · obtain ⟨hname, hfound⟩ := ih hentry
        exact ⟨List.mem_cons_of_mem _ hname, hfound⟩

/-- The reports of a batch are those of some of its modules, in their order. -/
theorem BatchRun.sublist {g : Generator} {d : Document} {names : List String}
    {batch : BatchReport} {s t : Session} (h : BatchRun g d names s batch t) :
    (batch.reports.map fun report => report.files.map (·.1)).Sublist
      (names.map fun name => g.pathsOf (snakeCase name)) := by
  induction h with
  | done s => exact List.Sublist.slnil
  | report hrun hrest ih =>
      rw [List.map_cons, List.map_cons, ← (of_generateModule_eq_ok hrun).2]
      exact ih.cons_cons _
  | failure hrun hrest ih => exact ih.cons _

/-- A batch that succeeds runs over the modules of the document, after the support files. -/
theorem of_generateAll_eq_ok {g : Generator} {d : Document} {batch : BatchReport}
    {s t : Session} (h : runIn (g.generateAll d) s = (.ok batch, t)) :
    ∃ support s', runIn g.ensureSupport s = (.ok support, s') ∧
      BatchRun g d d.primaryModules s' batch t := by
  obtain ⟨support, s', hsupport, h⟩ := Stateful.runIn_bind_eq_ok h
  obtain ⟨rfl, rfl⟩ : ((g.generateModules d {} d.primaryModules).run s').1 = batch ∧
      ((g.generateModules d {} d.primaryModules).run s').2 = t :=
    ⟨Except.ok.inj (congrArg Prod.fst h), congrArg Prod.snd h⟩
  exact ⟨support, s', hsupport, batchRun g d d.primaryModules s'⟩

/-- **A batch moves the session** as its support files and its modules do. -/
theorem moves_generateAll {g : Generator} {d : Document} {R : Session → Session → Prop}
    (hR : Stateful.Cumulative R) (hsupport : Stateful.Moves R g.ensureSupport)
    (hmodules : ∀ name ∈ d.primaryModules, Stateful.Moves R (g.generateModule (some d) name)) :
    Stateful.Moves R (g.generateAll d) := by
  have hbatch : ∀ {names batch s t}, BatchRun g d names s batch t →
      (∀ name ∈ names, Stateful.Moves R (g.generateModule (some d) name)) → R s t := by
    intro names batch s t h hnames
    induction h with
    | done s => exact hR.refl s
    | report hrun hrest ih =>
        obtain ⟨hname, hnames⟩ := List.forall_mem_cons.mp hnames
        exact hR.trans (hname.of_runIn hrun) (ih hnames)
    | failure hrun hrest ih =>
        obtain ⟨hname, hnames⟩ := List.forall_mem_cons.mp hnames
        exact hR.trans (hname.of_runIn hrun) (ih hnames)
  exact .bind hR hsupport fun _ s => hbatch (batchRun g d d.primaryModules s) hmodules

/-- A generator whose files are all empty. -/
def blank (root : String) : Generator where
  options := { outputDir := root, package := "shop" }
  templates := { dir := none, templates := TemplateKind.all.map fun kind => (kind.name, []) }
  writer := { format := false }

end Generator

end ServiceGen
