import ServiceGen.Proofs.SupportFiles

/-!
# Runs Again

Generating a module a second time, in a new session on the files that the first run leaves
(`Generator.Repeats`). Every step of the second run finds its work done: the support files are
provided for good (`Provided`), a file that was written is skipped, and an item or a declaration
that was added is there (`runIn_register_again`). None of this is undone by a step in between.

As in every session, the test whether a file exists comes before its directory is made. Below a
root such as `new/..` the first run misses the old helper file, and the second run clears it
(`not_forall_repeats`). Where nothing on the way to the root is left before it is there, a run can
be repeated (`repeats_of_settled`).
-/

namespace ServiceGen

open Stateful (runIn Moves Cumulative)
open Workspace (Conserves cumulative_conserves Inside)
open Layout (wireNames indexNames moduleDirs)

/-! ### Items -/

namespace Registration

variable {item other : String} {markers otherMarkers : List String}

/-- An item that is asked for again is there. -/
theorem isSettled_insertItem (hitem : IsItem item) (hmarkers : AreMarkers markers) :
    IsSettled (insertItem · item markers) :=
  insertItem_again hitem hmarkers

/-- Other items change nothing for one. -/
theorem saysSame_insertItem (hitem : IsItem item) (hother : IsItem other)
    (hapart : ¬ item.toList <:+: other.toList) (hmarkers : AreMarkers markers)
    (hotherMarkers : AreMarkers otherMarkers) (text : String) :
    SaysSame (insertItem · item markers) text (insertItem text other otherMarkers).2 :=
  fun _ => insertItem_other hitem hother hapart hmarkers hotherMarkers text

end Registration

/-- What is reported of a module that is generated again: its files are skipped, and its items are
there if they were added before. -/
def ModuleReport.again (report : ModuleReport) : ModuleReport :=
  { report with
    files := report.files.map fun file => (file.1, .skipped)
    injections := report.injections.map fun injection => (injection.1, injection.2.again) }

namespace Generator

variable {g : Generator} {w w' w'' : Workspace} {root name : String}

/-! ### Registering again -/

/-- A module is declared in the first index, then in the others. -/
theorem declareIn_cons (index : String) (indexes : List String) (name : String) :
    declareIn (index :: indexes) name = (do
      let _ ← Registration.declareInFile index name
      declareIn indexes name) := by
  simp only [declareIn, List.forIn_cons, bind_assoc, pure_bind]

/-- **Declarations that are made again** change nothing. -/
theorem runIn_declareIn_again (hname : '\n' ∉ name.toList) {indexes : List String}
    (hindexes : ∀ index ∈ indexes, index ∈ Layout.indexPaths root) (hsettled : w.Settled root)
    (hrun : runIn (declareIn indexes name) w = (.ok (), w')) :
    runIn (declareIn indexes name) w' = (.ok (), w') := by
  induction indexes generalizing w with
  | nil =>
      cases hrun
      rfl
  | cons index indexes ih =>
      obtain ⟨hindex, hothers⟩ := List.forall_mem_cons.mp hindexes
      obtain ⟨dir, hdir, rfl⟩ := List.mem_map.mp hindex
      rw [declareIn_cons] at hrun ⊢
      obtain ⟨outcome, w₁, hfirst, hrest⟩ := Stateful.runIn_bind_eq_ok hrun
      have hrespecting : ∀ other ∈ moduleDirs, ∀ text,
          Registration.Respecting (indexNames dir) (Registration.declareModule · name)
            (indexNames other) (some (.text text)) (Registration.declareModule text name).2 :=
        fun other _ text _ => ⟨text, rfl, Registration.saysSame_declareModule hname name text⟩
      have hsettled₁ : w₁.Settled root := ((Registration.moves_changeFile
        (Layout.inside_index hdir root) fun text _ => hrespecting dir hdir text).of_runIn hfirst
          hsettled).settled hsettled
      have hlater := (moves_declareIn hothers hrespecting).of_runIn hrest
      have hagain : runIn (Registration.declareInFile
          (joinPath (joinPath (Layout.sourceDir root) dir) "mod.rs") name) w' =
            (.ok outcome.again, w') :=
        Registration.runIn_changeFile_again (Layout.inside_index hdir root)
          (Registration.isSettled_declareModule hname) hfirst hsettled₁ hlater
      rw [Stateful.runIn_bind_of_ok hagain]
      exact ih hothers hsettled₁ hrest

/-- An item that is registered again is there, or what was said of it is said again. -/
theorem runIn_registerItem_again
    (hreg : g.options.registrationFile = Layout.defaultRegistrationFile) {item list : String}
    {markers : List String} (hitem : Registration.IsItem item)
    (hmarkers : Registration.AreMarkers markers) {entry instruction : String}
    {outcome : Registration.Outcome}
    (hrun : runIn (g.registerItem item list markers) w = (.ok ((entry, outcome), instruction), w'))
    (hsettled : w'.Settled g.options.outputDir)
    (hlater : Conserves g.options.outputDir
      (Registration.Respecting wireNames (Registration.insertItem · item markers)) w' w'') :
    runIn (g.registerItem item list markers) w'' =
      (.ok ((entry, outcome.again), instruction), w'') := by
  have hinside : Inside g.options.outputDir g.options.registrationPath wireNames := by
    rw [GeneratorOptions.registrationPath, hreg]
    exact Layout.inside_wire g.options.outputDir
  obtain ⟨_, made, hinsert, hdone⟩ := Stateful.runIn_bind_eq_ok hrun
  cases hdone
  have hagain := Registration.runIn_changeFile_again hinside
    (Registration.isSettled_insertItem hitem hmarkers) hinsert hsettled hlater
  exact Stateful.runIn_bind_of_ok hagain

/-- **A registration that is made again** changes nothing, and says what became of the items
before. -/
theorem runIn_register_again
    (hreg : g.options.registrationFile = Layout.defaultRegistrationFile) {view : ModuleView}
    (hview : view.module = snakeCase name) (hsettled : w.Settled g.options.outputDir)
    {injections : List (String × Registration.Outcome)} {instructions : List String}
    (hrun : runIn (g.register view) w = (.ok (injections, instructions), w')) :
    runIn (g.register view) w' =
      (.ok (injections.map fun injection => (injection.1, injection.2.again), instructions),
        w') := by
  have hlogicItem := ModuleView.isItem_logicItem hview
  have hhandlerItem := ModuleView.isItem_handlerItem hview
  have hnewline : '\n' ∉ view.module.toList := by
    rw [hview, snakeCase, String.toList_ofList]
    exact Text.not_mem_snake (by decide) (by decide) (by decide) _
  have hmoves : ∀ (item list : String) (markers : List String),
      Moves (Conserves g.options.outputDir fun _ _ _ => True) (g.registerItem item list markers) :=
    fun item list markers => moves_registerItem hreg (fun _ => trivial) list
  have hindexes : ∀ {T : EditRule}, (∀ dir ∈ moduleDirs, ∀ before text,
      T (indexNames dir) before text) → Moves (Conserves g.options.outputDir T)
        (declareIn (Layout.indexPaths g.options.outputDir) view.module) :=
    fun hT => moves_declareIn (fun _ => id) fun dir hdir text => hT dir hdir _ _
  have hwire : ∀ {change : String → Registration.Outcome × String}, ∀ dir ∈ moduleDirs,
      ∀ before text, Registration.Respecting wireNames change (indexNames dir) before text :=
    fun dir _ before text heq => absurd heq (by simp [indexNames, wireNames])
  rw [register_eq] at hrun ⊢
  obtain ⟨⟨⟨entry, outcome⟩, step⟩, w₁, hlogic, hrun⟩ := Stateful.runIn_bind_eq_ok hrun
  obtain ⟨⟨⟨entry', outcome'⟩, step'⟩, w₂, hhandler, hrun⟩ := Stateful.runIn_bind_eq_ok hrun
  obtain ⟨_, w₃, hdeclare, hdone⟩ := Stateful.runIn_bind_eq_ok hrun
  cases hdone
  have hsettled₁ := ((hmoves _ _ _).of_runIn hlogic hsettled).settled hsettled
  have hsettled₂ := ((hmoves _ _ _).of_runIn hhandler hsettled₁).settled hsettled₁
  -- The second item does not bring up the first, and declarations are made in other files.
  have hrespecting : ∀ text, Registration.Respecting wireNames
      (Registration.insertItem · view.logicItem Registration.logicMarkers) wireNames
      (some (.text text))
      (Registration.insertItem text view.handlerItem Registration.handlerMarkers).2 :=
    fun text _ => ⟨text, rfl, Registration.saysSame_insertItem hlogicItem hhandlerItem
      (ModuleView.not_infix_logicItem_handlerItem hview).1 Registration.areMarkers_logicMarkers
      Registration.areMarkers_handlerMarkers text⟩
  have hlogicAgain := runIn_registerItem_again hreg hlogicItem
    Registration.areMarkers_logicMarkers hlogic hsettled₁
    ((cumulative_conserves _ _).trans ((moves_registerItem hreg hrespecting _).of_runIn hhandler)
      ((hindexes hwire).of_runIn hdeclare))
  have hhandlerAgain := runIn_registerItem_again hreg hhandlerItem
    Registration.areMarkers_handlerMarkers hhandler hsettled₂
    ((hindexes hwire).of_runIn hdeclare)
  have hdeclareAgain := runIn_declareIn_again hnewline (fun _ => id) hsettled₂ hdeclare
  rw [Stateful.runIn_bind_of_ok hlogicAgain, Stateful.runIn_bind_of_ok hhandlerAgain,
    Stateful.runIn_bind_of_ok hdeclareAgain]
  rfl

/-! ### Writing again -/

/-- Writes a rendered file. -/
def writeFile (g : Generator) (file : String × String) : Generation (String × WriteOutcome) := do
  return (file.1, ← Generation.ofWork (g.writer.write file.1 file.2 g.options.force))

/-- Files first, then the registration. -/
theorem deposit_eq (g : Generator) (view : ModuleView) (rendered : List (String × String)) :
    g.deposit view rendered = (do
      let files ← rendered.mapM g.writeFile
      let registered ← Generation.ofWork (g.register view)
      return { module := view.module, files, injections := registered.1,
               instructions := registered.2 }) :=
  rfl

/-- Rendered files stand below the root. -/
theorem inside_of_renderFiles {view : ModuleView} {rendered : List (String × String)}
    (hrendered : g.renderFiles view = .ok rendered) {file : String × String}
    (hfile : file ∈ rendered) : ∃ names, Inside g.options.outputDir file.1 names := by
  have hpath : file.1 ∈ g.pathsOf view.module :=
    paths_of_renderFiles hrendered ▸ List.mem_map_of_mem hfile
  obtain ⟨names, -, hinside⟩ := Layout.exists_names_of_mem_paths hpath
  exact ⟨names, hinside⟩

/-- Writing one file below the root only adds files. -/
theorem moves_writeFile {file : String × String}
    (hinside : ∃ names, Inside g.options.outputDir file.1 names) :
    Moves (g.Adds fun _ _ _ => True) (g.writeFile file) := by
  have hR := cumulative_adds g fun _ _ _ => True
  obtain ⟨names, hinside⟩ := hinside
  exact .bind hR (moves_ofWork (Writer.moves_write g.writer _ hinside fun _ _ _ => trivial))
    fun outcome => .pure hR _

/-- A file that is to be written is there afterwards. -/
theorem exists?_of_runIn_writeFile {file : String × String}
    (hinside : ∃ names, Inside g.options.outputDir file.1 names) {written : String × WriteOutcome}
    {s t : Session} (h : runIn (g.writeFile file) s = (.ok written, t)) :
    t.workspace.exists? file.1 = true := by
  obtain ⟨names, hinside⟩ := hinside
  obtain ⟨outcome, s₁, hwrite, hdone⟩ := Stateful.runIn_bind_eq_ok h
  cases hdone
  rw [Generation.runIn_ofWork, Prod.mk.injEq] at hwrite
  obtain ⟨houtcome, rfl⟩ := hwrite
  exact g.writer.exists?_of_runIn_write hinside.isEmpty_eq_false (Prod.ext houtcome rfl)

/-- Files that are to be written are all there in the end. -/
theorem forall_exists?_of_runIn_mapM_writeFile {rendered : List (String × String)}
    (hinside : ∀ file ∈ rendered, ∃ names, Inside g.options.outputDir file.1 names)
    {files : List (String × WriteOutcome)} {s t : Session}
    (hsettled : s.workspace.Settled g.options.outputDir)
    (h : runIn (rendered.mapM g.writeFile) s = (.ok files, t)) :
    ∀ file ∈ rendered, t.workspace.exists? file.1 = true := by
  induction rendered generalizing files s with
  | nil => simp
  | cons file rendered ih =>
      obtain ⟨hfirst, hothers⟩ := List.forall_mem_cons.mp hinside
      rw [List.mapM_cons] at h
      obtain ⟨written, s₁, hwrite, h⟩ := Stateful.runIn_bind_eq_ok h
      obtain ⟨others, s₂, hrest, h⟩ := Stateful.runIn_bind_eq_ok h
      cases h
      have hsettled₁ := (((moves_writeFile hfirst).of_runIn hwrite).2 hsettled).settled hsettled
      have hlater := ((Moves.mapM (cumulative_adds g _) fun file hfile =>
        moves_writeFile (hothers file hfile)).of_runIn hrest).2 hsettled₁
      exact List.forall_mem_cons.mpr ⟨hlater.exists? (exists?_of_runIn_writeFile hfirst hwrite),
        ih hothers hsettled₁ hrest⟩

/-- **Files that are written again** are skipped. -/
theorem runIn_mapM_writeFile_again (hforce : g.options.force = false)
    {rendered : List (String × String)} {s : Session}
    (h : ∀ file ∈ rendered, s.workspace.exists? file.1 = true) :
    runIn (rendered.mapM g.writeFile) s =
      (.ok (rendered.map fun file => (file.1, .skipped)), s) := by
  have hskip : ∀ file ∈ rendered, runIn (g.writeFile file) s = (.ok (file.1, .skipped), s) := by
    intro file hfile
    have hwrite : runIn (Generation.ofWork (g.writer.write file.1 file.2 g.options.force)) s =
        (.ok .skipped, s) := by
      rw [Generation.runIn_ofWork, hforce, g.writer.runIn_write_of_exists file.2 (h file hfile)]
    exact Stateful.runIn_bind_of_ok hwrite
  rw [Stateful.runIn_mapM_of_unchanged hskip]
  congr 1
  exact List.mapM_pure ..

/-! ### Modules again -/

/-- **Files that are written and registered again** are left as they are, in any session on the
same workspace. -/
theorem runIn_deposit_again (hforce : g.options.force = false)
    (hreg : g.options.registrationFile = Layout.defaultRegistrationFile) {view : ModuleView}
    (hview : view.module = snakeCase name) {rendered : List (String × String)}
    (hrendered : g.renderFiles view = .ok rendered) {report : ModuleReport} {s t t' : Session}
    (hsettled : s.workspace.Settled g.options.outputDir)
    (hrun : runIn (g.deposit view rendered) s = (.ok report, t))
    (hsame : t'.workspace = t.workspace) :
    runIn (g.deposit view rendered) t' = (.ok report.again, t') := by
  have hinside : ∀ file ∈ rendered, ∃ names, Inside g.options.outputDir file.1 names :=
    fun file hfile => inside_of_renderFiles hrendered hfile
  rw [deposit_eq] at hrun ⊢
  obtain ⟨files, s₁, hfiles, hrun⟩ := Stateful.runIn_bind_eq_ok hrun
  obtain ⟨⟨injections, instructions⟩, s₂, hregister, hdone⟩ := Stateful.runIn_bind_eq_ok hrun
  cases hdone
  rw [Generation.runIn_ofWork, Prod.mk.injEq] at hregister
  obtain ⟨hregistered, rfl⟩ := hregister
  have hwrites := (Moves.mapM (cumulative_adds g _) fun file hfile =>
    moves_writeFile (hinside file hfile)).of_runIn hfiles
  have hsettled₁ := (hwrites.2 hsettled).settled hsettled
  have hregister : runIn (g.register view) s₁.workspace =
      (.ok (injections, instructions), (runIn (g.register view) s₁.workspace).2) :=
    Prod.ext hregistered rfl
  generalize (runIn (g.register view) s₁.workspace).2 = w at hregister hsame
  obtain ⟨w', support⟩ := t'
  obtain rfl : w' = w := hsame
  -- The second run, step by step.
  have hexists : ∀ file ∈ rendered, w'.exists? file.1 = true := by
    intro file hfile
    have hthere := forall_exists?_of_runIn_mapM_writeFile hinside hsettled hfiles file hfile
    have hlater : Conserves g.options.outputDir (g.Rule (Eq name)) s₁.workspace w' :=
      (moves_register hreg (Or.inr (Or.inr ⟨name, rfl, hview⟩))).of_runIn hregister
    exact (hlater hsettled₁).exists? hthere
  have hfilesAgain : runIn (rendered.mapM g.writeFile) ⟨w', support⟩ =
      (.ok (rendered.map fun file => (file.1, .skipped)), ⟨w', support⟩) :=
    runIn_mapM_writeFile_again hforce hexists
  have hregisterAgain : runIn (Generation.ofWork (g.register view)) ⟨w', support⟩ =
      (.ok (injections.map fun injection => (injection.1, injection.2.again), instructions),
        ⟨w', support⟩) := by
    rw [Generation.runIn_ofWork, runIn_register_again hreg hview hsettled₁ hregister]
  have hpaths : files.map (fun file => (file.1, WriteOutcome.skipped)) =
      rendered.map fun file => (file.1, .skipped) := by
    refine Stateful.map_of_runIn_mapM (fun file written s t hwrite => ?_) hfiles
    obtain ⟨outcome, s', -, hdone⟩ := Stateful.runIn_bind_eq_ok hwrite
    cases hdone
    rfl
  rw [ModuleReport.again, hpaths]
  exact (Stateful.runIn_bind_of_ok hfilesAgain).trans (Stateful.runIn_bind_of_ok hregisterAgain)

/-! ### Sessions -/

/-- Names that modules may have. -/
def Free (name : String) : Prop :=
  Layout.isReserved name = false

/-- There is nothing left to do about the support files, whatever modules are generated. -/
def Provided (g : Generator) (w : Workspace) : Prop :=
  ∀ w', Conserves g.options.outputDir (g.Rule Free) w w' → runIn g.supportWork w' = (.ok {}, w')

/-- A session on a settled root that has provided the support files if it says so. -/
structure Sound (g : Generator) (s : Session) : Prop where
  settled : s.workspace.Settled g.options.outputDir
  provided : s.support.isSome = true → g.Provided s.workspace

/-- What is provided stays so while modules are generated. -/
theorem Provided.adds {s t : Session} (h : g.Provided s.workspace)
    (hadds : g.Adds (g.Rule Free) s t) : g.Provided t.workspace :=
  fun w' hlater => h w' ((cumulative_conserves _ _).trans hadds.2 hlater)

/-- A sound session stays sound while free files are added. -/
theorem Sound.adds {s t : Session} (h : g.Sound s) (hadds : g.Adds (g.Rule Free) s t) :
    g.Sound t where
  settled := (hadds.2 h.settled).settled h.settled
  provided hsome := (h.provided (hadds.1 ▸ hsome)).adds hadds

/-- A new session is sound. -/
theorem sound_of_settled (h : w.Settled g.options.outputDir) : g.Sound { workspace := w } where
  settled := h
  provided hsome := absurd hsome (by simp)

/-- Support files are provided for good. -/
theorem provided_of_runIn_supportWork (hforce : g.options.force = false)
    (hsettled : w.Settled g.options.outputDir) {report : SupportReport}
    (hrun : runIn g.supportWork w = (.ok report, w')) : g.Provided w' :=
  fun _ hlater => runIn_supportWork_again hforce (fun _ => id) hsettled hrun hlater

/-- Sessions stay sound. -/
theorem moves_sound_ensureSupport (hforce : g.options.force = false) :
    Moves (fun s t => g.Sound s → g.Sound t) g.ensureSupport := by
  intro s hsound
  rw [runIn_ensureSupport]
  cases hsupport : s.support with
  | some report => exact hsound
  | none =>
      have hmoved := moves_supportWork g Free s.workspace
      cases hrun : runIn g.supportWork s.workspace with
      | mk outcome w =>
          rw [hrun] at hmoved
          have hsettled := (hmoved hsound.settled).settled hsound.settled
          cases outcome with
          | error cause => exact sound_of_settled hsettled
          | ok report =>
              exact ⟨hsettled, fun _ => provided_of_runIn_supportWork hforce hsound.settled hrun⟩

/-- Once the support files are ensured, the session keeps their report. -/
theorem isSome_support_of_runIn_ensureSupport {report : SupportReport} {s t : Session}
    (h : runIn g.ensureSupport s = (.ok report, t)) : t.support.isSome = true := by
  rw [runIn_ensureSupport] at h
  cases hsupport : s.support with
  | some old =>
      rw [hsupport] at h
      cases h
      rw [hsupport]
      rfl
  | none =>
      rw [hsupport] at h
      dsimp only at h
      generalize runIn g.supportWork s.workspace = run at h
      obtain ⟨outcome, w⟩ := run
      cases outcome with
      | error cause => cases h
      | ok made =>
          cases h
          rfl

/-- Without force a module is generated from a sound session to a sound one. -/
theorem moves_sound_generateModule (hforce : g.options.force = false)
    (hreg : g.options.registrationFile = Layout.defaultRegistrationFile)
    (document : Option Document) (name : String) :
    Moves (fun s t => g.Sound s → g.Sound t) (g.generateModule document name) := by
  intro s hsound
  have hR : Cumulative fun s t => g.Sound s → g.Sound t := ⟨fun _ => id, fun h h' => h' ∘ h⟩
  rw [runIn_generateModule]
  cases hview : g.view document name with
  | error failure => exact hsound
  | ok view =>
      dsimp only
      rw [runIn_output]
      cases hrendered : g.renderFiles view with
      | error failure => exact hsound
      | ok rendered =>
          refine Moves.bind hR (moves_sound_ensureSupport hforce) (fun _ s hsound => ?_) s hsound
          exact hsound.adds (moves_deposit hreg (isReserved_of_view_eq_ok hview)
            (module_of_view_eq_ok hview) hrendered s)

/-- **A session stays sound**, over any calls. -/
theorem sound_performAll (hforce : g.options.force = false)
    (hreg : g.options.registrationFile = Layout.defaultRegistrationFile) (calls : List Call)
    {s : Session} (h : g.Sound s) : g.Sound (g.performAll calls s) :=
  moves_performAll (R := fun s t => g.Sound s → g.Sound t) ⟨fun _ => id, fun h h' => h' ∘ h⟩
    (moves_sound_ensureSupport hforce)
    (fun _ _ document name _ => moves_sound_generateModule hforce hreg document name) s h

/-- **A run can be repeated**: if it succeeds, a second one in a new session on the files that it
leaves succeeds and changes nothing. It skips all files, finds the items that the first one added
or found, and says the same of the others. -/
def Repeats (g : Generator) (document : Option Document) (name : String) (s : Session) : Prop :=
  ∀ report t, (g.generateModule document name).runOn s = (.ok report, t) →
    (g.generateModule document name).runOn { workspace := t.workspace } =
      (.ok report.again, { workspace := t.workspace, support := some {} })

/-- **A run can be repeated**, whatever the session did before it, if nothing on the way to the
root is left before it is there. -/
theorem repeats_of_settled (g : Generator) (calls : List Call) (w : Workspace)
    (document : Option Document) (name : String) (hforce : g.options.force = false)
    (hreg : g.options.registrationFile = Layout.defaultRegistrationFile)
    (hsettled : w.Settled g.options.outputDir) :
    g.Repeats document name (g.performAll calls { workspace := w }) := by
  have hsound := sound_performAll hforce hreg calls (sound_of_settled hsettled)
  intro report t hrun
  rw [Generation.runOn_eq_runIn, runIn_generateModule] at hrun ⊢
  cases hview : g.view document name with
  | error failure =>
      rw [hview] at hrun
      cases hrun
  | ok view =>
      rw [hview] at hrun
      dsimp only at hrun ⊢
      rw [runIn_output] at hrun ⊢
      cases hrendered : g.renderFiles view with
      | error failure =>
          rw [hrendered] at hrun
          cases hrun
      | ok rendered =>
          rw [hrendered] at hrun
          obtain ⟨support, s, hsupport, hdeposit⟩ := Stateful.runIn_bind_eq_ok hrun
          have hmodule := module_of_view_eq_ok hview
          have hsound := (moves_sound_ensureSupport hforce).of_runIn hsupport hsound
          have hadds : g.Adds (g.Rule Free) s t := (moves_deposit hreg
            (isReserved_of_view_eq_ok hview) hmodule hrendered).of_runIn hdeposit
          have hprovided := (hsound.provided
            (isSome_support_of_runIn_ensureSupport hsupport)).adds hadds
          have hsupportAgain : runIn g.ensureSupport { workspace := t.workspace } =
              (.ok {}, { workspace := t.workspace, support := some {} }) := by
            rw [runIn_ensureSupport, hprovided t.workspace ((cumulative_conserves _ _).refl _)]
          exact (Stateful.runIn_bind_of_ok hsupportAgain).trans
            (runIn_deposit_again hforce hreg hmodule hrendered hsound.settled hdeposit rfl)

/-- A project with all files of a module, and with an old helper file. -/
def shelved : Workspace where
  tree := .directory [("src", .directory [
    ("errors", .directory [("x.rs", .file (.text ""))]),
    ("handlers", .directory [("context.rs", .file (.text "")), ("helpers.rs", .file (.text "")),
      ("response.rs", .file (.text "")), ("x.rs", .file (.text ""))]),
    ("logic", .directory [("x.rs", .file (.text ""))]),
    ("types", .directory [("x.rs", .file (.text ""))])])]

/-- A document with one route. -/
def oneRoute : Document where
  paths := [("/x", { get := some {} })]

/-- The run for the module of that route, in a new session. -/
def runAt (root : String) (w : Workspace) : Except Failure ModuleReport × Session :=
  ((blank root).generateModule (some oneRoute) "x").runOn { workspace := w }

/-- What comes of the run and of the next. -/
theorem exists_runAt_again
    (h : (blank root).Repeats (some oneRoute) "x" ((blank root).performAll [] { workspace := w }))
    (hok : (runAt root w).1.isOk = true) :
    ∃ report t, runAt root w = (.ok report, t) ∧ runAt root t.workspace =
      (.ok report.again, { workspace := t.workspace, support := some {} }) := by
  cases hrun : runAt root w with
  | mk outcome t =>
      rw [hrun] at hok
      cases outcome with
      | error failure => cases hok
      | ok report => exact ⟨report, t, rfl, h report t hrun⟩

/-- A file is what it was after the first run. -/
theorem contentAt?_runAt_again
    (h : (blank root).Repeats (some oneRoute) "x" ((blank root).performAll [] { workspace := w }))
    (hok : (runAt root w).1.isOk = true) (place : List String) :
    (runAt root (runAt root w).2.workspace).2.workspace.tree.contentAt? place =
      (runAt root w).2.workspace.tree.contentAt? place := by
  obtain ⟨report, t, hrun, hagain⟩ := exists_runAt_again h hok
  rw [hrun]
  dsimp only
  rw [hagain]

/-- A run that finds all files, and the next. -/
theorem repeats_of_settled_shelved :
    (blank ".").options.force = false ∧
      (blank ".").options.registrationFile = Layout.defaultRegistrationFile ∧
      shelved.Settled (blank ".").options.outputDir ∧
      ∃ report t, runAt "." shelved = (.ok report, t) ∧ runAt "." t.workspace =
        (.ok report.again, { workspace := t.workspace, support := some {} }) := by
  have hsettled : shelved.Settled (blank ".").options.outputDir := by
    intro above habove
    rw [show Workspace.departed (shelved.route (blank ".").options.outputDir) [] = []
      from by decide] at habove
    cases habove
  have hok : (runAt "." shelved).1.isOk = true := by decide +kernel
  exact ⟨rfl, rfl, hsettled, exists_runAt_again
    (repeats_of_settled (blank ".") [] shelved (some oneRoute) "x" rfl rfl hsettled) hok⟩

/-- Below `new/..`, the old helper file is cleared in the second run. -/
theorem not_forall_repeats : ¬ ∀ (g : Generator) (calls : List Call) (w : Workspace)
    (document : Option Document) (name : String), g.options.force = false →
    g.options.registrationFile = Layout.defaultRegistrationFile →
    g.Repeats document name (g.performAll calls { workspace := w }) := by
  intro hall
  obtain ⟨hok, hbefore, hafter⟩ :
      (runAt "new/.." shelved).1.isOk = true ∧
        (runAt "new/.." shelved).2.workspace.tree.contentAt? ["src", "handlers", "helpers.rs"] =
          some (.text "") ∧
        (runAt "new/.." (runAt "new/.." shelved).2.workspace).2.workspace.tree.contentAt?
          ["src", "handlers", "helpers.rs"] = some (.text Support.legacyStub) := by
    decide +kernel
  have hsame := contentAt?_runAt_again
    (hall (blank "new/..") [] shelved (some oneRoute) "x" rfl rfl) hok
    ["src", "handlers", "helpers.rs"]
  exact absurd (hbefore.symm.trans (hsame.symm.trans hafter)) (by decide)

end Generator

end ServiceGen
