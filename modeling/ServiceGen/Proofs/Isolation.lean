import ServiceGen.Proofs.Batches

/-!
# Isolated Failures

A run makes its view and renders all its files before it touches any. So a failure of the name,
of the document or of a template of the module leaves the session as it was
(`eq_of_generateModule_eq_error`), and a batch whose modules fail on nothing else does what it
does for the modules that succeed alone (`BatchRun.runIn_survivors`). What it says to have failed
did fail, in its place among the others (`FailsInPlace`), and what it counts is what it has
(`BatchRun.counts`). `failures_isolated` has all of this.
-/

namespace ServiceGen

/-- The failures that come before the first file is touched: of the name of a module, of its
operations, of a reference, of a template of the module. -/
def Failure.BeforeFiles : Failure → Prop
  | .reservedModule _ => True
  | .invalidModuleName _ => True
  | .noOperations _ => True
  | .unresolvable _ => True
  | .template _ => True
  | _ => False

/-- A failure of files comes after the first file is touched. -/
theorem Failure.OfFiles.not_beforeFiles {failure : Failure} (h : failure.OfFiles) :
    ¬ failure.BeforeFiles := by
  cases failure with
  | support cause => exact id
  | file action path fault => exact id
  | _ => exact absurd h id

open Stateful (runIn)

namespace Generator

variable {g : Generator} {d : Document}

/-- **A failure before the first file leaves the session as it was.** -/
theorem eq_of_generateModule_eq_error {document : Option Document} {name : String}
    {failure : Failure} {s t : Session}
    (h : runIn (g.generateModule document name) s = (.error failure, t))
    (hbefore : failure.BeforeFiles) : t = s := by
  rw [runIn_generateModule] at h
  cases hview : g.view document name with
  | error other =>
      rw [hview] at h
      exact (congrArg Prod.snd h).symm
  | ok view =>
      rw [hview] at h
      dsimp only at h
      rw [runIn_output] at h
      cases hrendered : g.renderFiles view with
      | error other =>
          rw [hrendered] at h
          exact (congrArg Prod.snd h).symm
      | ok rendered =>
          rw [hrendered] at h
          exact absurd hbefore (failsOnly_deliver g view rendered s failure t h).not_beforeFiles

/-! ### Batches -/

namespace BatchRun

variable {names : List String} {batch : BatchReport} {s t : Session}

/-- **A batch counts its modules**: all, and those of them that succeed. -/
theorem counts (h : BatchRun g d names s batch t) :
    batch.attempted = names.length ∧
      batch.attempted = batch.succeeded + batch.failures.length ∧
      batch.reports.length = batch.succeeded := by
  induction h with
  | done s => exact ⟨rfl, rfl, rfl⟩
  | report hrun hrest ih =>
      obtain ⟨hattempted, hsum, hsucceeded⟩ := ih
      simp only [List.length_cons]
      omega
  | failure hrun hrest ih =>
      obtain ⟨hattempted, hsum, hsucceeded⟩ := ih
      simp only [List.length_cons]
      omega

/-- What fails is a name of the batch. -/
theorem mem_names (h : BatchRun g d names s batch t) {name : String}
    (hname : name ∈ batch.failures.map (·.1)) : name ∈ names := by
  obtain ⟨entry, hentry, rfl⟩ := List.mem_map.mp hname
  exact (h.exists_run_of_mem_failures hentry).1

end BatchRun

/-- The names of a batch that do not fail, in the order of the batch. -/
def survivors (batch : BatchReport) (names : List String) : List String :=
  names.filter fun name => !(batch.failures.map (·.1)).contains name

section Survivors

variable {batch later : BatchReport} {name : String} {failure : Failure}

/-- A name that does not fail is kept. -/
theorem survivors_cons_of_not_mem {names : List String} (h : later.failures = batch.failures)
    (hname : name ∉ batch.failures.map (·.1)) :
    survivors later (name :: names) = name :: survivors batch names := by
  rw [survivors, List.filter_cons_of_pos (by simpa [h] using hname), survivors, h]

/-- A name that fails is left out, and the others are not concerned. -/
theorem survivors_cons_of_failures {names : List String}
    (h : later.failures = (name, failure) :: batch.failures) (hfresh : name ∉ names) :
    survivors later (name :: names) = survivors batch names := by
  have hfails : survivors later (name :: names) = survivors later names :=
    List.filter_cons_of_neg (by simp [h])
  refine hfails.trans (List.filter_congr fun other hother => ?_)
  have hne : other ≠ name := fun heq => hfresh (heq ▸ hother)
  simp [h, hne]

end Survivors

/-- A name that does not fail is generated, and then the others are. -/
theorem runIn_survivors_cons {batch later : BatchReport} {name : String} {names : List String}
    {report : ModuleReport} {reports : List ModuleReport} {s s' t : Session}
    (hfailures : later.failures = batch.failures) (hname : name ∉ batch.failures.map (·.1))
    (hfirst : runIn (g.generateModule (some d) name) s = (.ok report, s'))
    (hothers : runIn ((survivors batch names).mapM (g.generateModule (some d))) s' =
      (.ok reports, t)) :
    runIn ((survivors later (name :: names)).mapM (g.generateModule (some d))) s =
      (.ok (report :: reports), t) := by
  rw [survivors_cons_of_not_mem hfailures hname, List.mapM_cons, Stateful.runIn_bind, hfirst]
  dsimp only
  rw [Stateful.runIn_bind, hothers]
  rfl

/-- **A batch that fails before files only** does what generating the other modules does. -/
theorem BatchRun.runIn_survivors {names : List String} {batch : BatchReport} {s t : Session}
    (h : BatchRun g d names s batch t) (hnodup : names.Nodup)
    (hbefore : ∀ entry ∈ batch.failures, entry.2.BeforeFiles) :
    runIn ((survivors batch names).mapM (g.generateModule (some d))) s =
      (.ok batch.reports, t) := by
  induction h with
  | done s => rfl
  | report hrun hrest ih =>
      obtain ⟨hfresh, hnodup⟩ := List.nodup_cons.mp hnodup
      have hname := fun hmem => hfresh (hrest.mem_names hmem)
      exact runIn_survivors_cons rfl hname hrun (ih hnodup hbefore)
  | failure hrun hrest ih =>
      obtain ⟨hfresh, hnodup⟩ := List.nodup_cons.mp hnodup
      obtain ⟨hfailure, hbefore⟩ := List.forall_mem_cons.mp hbefore
      obtain rfl := eq_of_generateModule_eq_error hrun hfailure
      rw [survivors_cons_of_failures rfl hfresh]
      exact ih hnodup hbefore

/-- **What a batch that fails before files only fails on**: each failure is that of a run for the
module, in the session that generating the modules before it comes to. -/
theorem BatchRun.exists_runIn_of_mem_failures {names : List String} {batch : BatchReport}
    {s t : Session} (h : BatchRun g d names s batch t) (hnodup : names.Nodup)
    (hbefore : ∀ entry ∈ batch.failures, entry.2.BeforeFiles) :
    ∀ entry ∈ batch.failures, ∃ before after reports u, names = before ++ entry.1 :: after ∧
      runIn ((survivors batch before).mapM (g.generateModule (some d))) s = (.ok reports, u) ∧
      runIn (g.generateModule (some d) entry.1) u = (.error entry.2, u) := by
  induction h with
  | done s => simp
  | @report name names report batch s s' t hrun hrest ih =>
      obtain ⟨hfresh, hnodup⟩ := List.nodup_cons.mp hnodup
      intro entry hentry
      obtain ⟨before, after, reports, u, hnames, hreports, hfails⟩ := ih hnodup hbefore entry hentry
      have hname := fun hmem => hfresh (hrest.mem_names hmem)
      exact ⟨name :: before, after, report :: reports, u, congrArg _ hnames,
        runIn_survivors_cons rfl hname hrun hreports, hfails⟩
  | @failure name names failure batch s s' t hrun hrest ih =>
      obtain ⟨hfresh, hnodup⟩ := List.nodup_cons.mp hnodup
      obtain ⟨hfailure, hbefore⟩ := List.forall_mem_cons.mp hbefore
      obtain rfl := eq_of_generateModule_eq_error hrun hfailure
      refine List.forall_mem_cons.mpr ⟨⟨[], names, [], s', rfl, rfl, hrun⟩, fun entry hentry => ?_⟩
      obtain ⟨before, after, reports, u, hnames, hreports, hfails⟩ := ih hnodup hbefore entry hentry
      refine ⟨name :: before, after, reports, u, congrArg _ hnames, ?_, hfails⟩
      rw [survivors_cons_of_failures rfl fun hmem => hfresh (hnames ▸ List.mem_append_left _ hmem)]
      exact hreports

/-- A module of a document fails in a batch as it does by itself: after the support files and
those modules before it that do not fail, a run for it fails, and leaves the session as it is. -/
def FailsInPlace (g : Generator) (d : Document) (batch : BatchReport) (s : Session)
    (name : String) (failure : Failure) : Prop :=
  ∃ before after reports u, d.primaryModules = before ++ name :: after ∧
    (do let _ ← g.ensureSupport
        (survivors batch before).mapM (g.generateModule (some d))).runOn s = (.ok reports, u) ∧
    (g.generateModule (some d) name).runOn u = (.error failure, u)

/-- **Failures are isolated.** A module that fails on its name, its operations, a reference or a
template of its own leaves the session, the workspace and the support files, as it was. A batch
runs the modules of the document one after the other, counts them all, and what it says to have
failed are modules of the document with the failures of runs for them. If it fails on nothing else
than above, then it comes to the session that providing the support files and generating the other
modules alone comes to, with the same reports, and each module that is said to fail does so in its
place. -/
theorem failures_isolated (g : Generator) :
    (∀ (document : Option Document) (name : String) (failure : Failure) (s t : Session),
      (g.generateModule document name).runOn s = (.error failure, t) →
        failure.BeforeFiles → t = s) ∧
    ∀ (d : Document) (batch : BatchReport) (s t : Session),
      (g.generateAll d).runOn s = (.ok batch, t) →
        (∃ support s', g.ensureSupport.runOn s = (.ok support, s') ∧
          BatchRun g d d.primaryModules s' batch t) ∧
        (batch.attempted = d.primaryModules.length ∧
          batch.attempted = batch.succeeded + batch.failures.length ∧
          batch.reports.length = batch.succeeded) ∧
        (∀ entry ∈ batch.failures, entry.1 ∈ d.primaryModules ∧
          ∃ u v, (g.generateModule (some d) entry.1).runOn u = (.error entry.2, v)) ∧
        ((∀ entry ∈ batch.failures, entry.2.BeforeFiles) →
          (do let _ ← g.ensureSupport
              (survivors batch d.primaryModules).mapM (g.generateModule (some d))).runOn s =
            (.ok batch.reports, t) ∧
          ∀ entry ∈ batch.failures, g.FailsInPlace d batch s entry.1 entry.2) := by
  refine ⟨fun document name failure s t h hbefore => eq_of_generateModule_eq_error h hbefore,
    fun d batch s t h => ?_⟩
  obtain ⟨support, s', hsupport, hbatch⟩ := of_generateAll_eq_ok h
  refine ⟨⟨support, s', hsupport, hbatch⟩, hbatch.counts,
    fun entry hentry => hbatch.exists_run_of_mem_failures hentry, fun hbefore => ?_⟩
  have hafter (names : List String) :
      (do let _ ← g.ensureSupport
          (survivors batch names).mapM (g.generateModule (some d))).runOn s =
        runIn ((survivors batch names).mapM (g.generateModule (some d))) s' := by
    rw [Generation.runOn_eq_runIn, Stateful.runIn_bind, hsupport]
  have hnodup := d.nodup_primaryModules
  refine ⟨(hafter _).trans (hbatch.runIn_survivors hnodup hbefore), fun entry hentry => ?_⟩
  obtain ⟨before, after, reports, u, hnames, hreports, hfails⟩ :=
    hbatch.exists_runIn_of_mem_failures hnodup hbefore entry hentry
  exact ⟨before, after, reports, u, hnames, (hafter before).trans hreports, hfails⟩

/-- A document of two modules, of which one shares its name with a helper. -/
def contextAndOrders : Document where
  paths := [("/context", { get := some {} }), ("/orders", { get := some {} })]

/-- The module `context` fails where nothing is generated yet, and the batch comes to what
generating `orders` alone comes to. -/
theorem failures_isolated_context : ∃ batch t,
    ((blank "/shop").generateAll contextAndOrders).runOn { workspace := {}, support := some {} } =
        (.ok batch, t) ∧
      batch.failures = [("context", .reservedModule "context")] ∧
      batch.reports.map (·.module) = ["orders"] ∧
      (do let _ ← (blank "/shop").ensureSupport
          (survivors batch contextAndOrders.primaryModules).mapM
            ((blank "/shop").generateModule (some contextAndOrders))).runOn
        { workspace := {}, support := some {} } = (.ok batch.reports, t) ∧
      (blank "/shop").FailsInPlace contextAndOrders batch { workspace := {}, support := some {} }
        "context" (.reservedModule "context") ∧
      batch.attempted = 2 ∧ batch.succeeded = 1 := by
  have hall : (((blank "/shop").generateAll contextAndOrders).runOn
      { workspace := {}, support := some {} }).1.toOption.any (fun batch =>
        batch.failures == [("context", .reservedModule "context")] &&
          batch.reports.map (·.module) == ["orders"]) = true := by
    decide +kernel
  obtain ⟨batch, t, hrun, hbatch⟩ := Generation.exists_runOn_of_any hall
  obtain ⟨hfailures, hreports⟩ := Bool.and_eq_true_iff.mp hbatch
  replace hfailures := eq_of_beq hfailures
  replace hreports := eq_of_beq hreports
  have hbefore : ∀ entry ∈ batch.failures, entry.2.BeforeFiles := by
    rw [hfailures]
    exact List.forall_mem_singleton.mpr trivial
  obtain ⟨-, ⟨-, hsum, hsucceeded⟩, -, hbatch⟩ :=
    (failures_isolated (blank "/shop")).2 contextAndOrders batch _ t hrun
  obtain ⟨hsession, hplace⟩ := hbatch hbefore
  have hone : batch.succeeded = 1 := by
    rw [← hsucceeded, ← List.length_map (·.module), hreports]
    rfl
  rw [hone, hfailures] at hsum
  exact ⟨batch, t, hrun, hfailures, hreports, hsession,
    hplace ("context", _) (by rw [hfailures]; exact List.mem_singleton_self _), hsum, hone⟩

end Generator

end ServiceGen
