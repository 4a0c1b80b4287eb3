import ServiceGen.Proofs.RegisteredItems
import ServiceGen.Proofs.Reruns

/-!
# Rewritten Files

Registering and declaring write only to files that are there. So no path comes to lead anywhere that
it did not lead to before, and a path leads to the text that was written exactly if it leads to the
same place (`Workspace.file?_of_rewrite`). This needs nothing of the paths: two of them may lead to
one file.

## Main results

* `Workspace.file?_of_rewrite`: what becomes of any path when a file is rewritten.
* `declaredAt_of_declareIn`: **all index files that are there declare a module** that was declared
  in them.
* `of_runIn_register_eq_ok`: what is reported of the items of a module is what is said of them in
  the registration file as it was.
-/

namespace ServiceGen

open Stateful (runIn)

namespace Workspace

variable {w w' : Workspace} {path other text : String}

/-- Directories are where they were when a file is rewritten. -/
theorem exists_directory_of_rewrite (h : w.withText path text = .ok w')
    (hthere : (w.file? path).isSome = true) {above : List String}
    (habove : ∃ entries, w'.tree.at? above = some (.directory entries)) :
    ∃ entries, w.tree.at? above = some (.directory entries) := by
  obtain ⟨content, hcontent⟩ := Option.isSome_iff_exists.mp hthere
  obtain ⟨-, -, hcontent⟩ := file?_eq_some_iff.mp hcontent
  have hfile := FileTree.contentAt?_eq_some_iff.mp hcontent
  obtain ⟨-, hopen, rfl⟩ := of_withText_eq_ok h
  obtain ⟨entries, hentries⟩ := habove
  by_cases hprefix : above <+: w.place path
  · -- A place on the way to the file is one of its directories.
    obtain ⟨rest, hrest⟩ := hprefix
    cases rest with
    | nil =>
        rw [List.append_nil] at hrest
        subst hrest
        have hself := FileTree.Open.at?_put_self (t := some text) hopen
        cases Option.some.inj (hself.symm.trans hentries)
    | cons name rest => exact hopen.ground above name rest hrest.symm
  · exact ⟨entries, (hopen.at?_put_of_not_prefix (t := some text) hprefix).symm.trans hentries⟩

/-- **What becomes of any path when a file is rewritten**: it leads to what it led to before, unless
that is the file. -/
theorem file?_of_rewrite (h : w.withText path text = .ok w')
    (hthere : (w.file? path).isSome = true) (other : String) :
    w'.file? other = w.file? other ∨
      w.file? other = w.file? path ∧ w'.file? other = some (.text text) := by
  have hevolves : Evolves (fun place _ _ => place = w.place path) w w' := evolves_withText h rfl
  have hlocate : w'.locate other = .ok (w'.place other) → w.locate other = .ok (w.place other) := by
    intro hother
    obtain ⟨-, hpassed⟩ := locate_eq_ok_iff.mp hother
    refine locate_eq_ok_iff.mpr ⟨rfl, fun above habove => ?_⟩
    exact exists_directory_of_rewrite h hthere (hpassed above (hevolves.route other ▸ habove))
  by_cases hempty : other.isEmpty = true
  · have hnone : ∀ v : Workspace, v.file? other = none := fun v => by
      rw [Option.eq_none_iff_forall_ne_some]
      intro content hcontent
      rw [(file?_eq_some_iff.mp hcontent).1] at hempty
      cases hempty
    exact Or.inl (by rw [hnone, hnone])
  · have hnonempty : other.isEmpty = false := by simpa using hempty
    by_cases hlocated : w.locate other = .ok (w.place other)
    · rw [file?_of_locate hnonempty hlocated, file?_of_locate hnonempty (hevolves.locate hlocated),
        hevolves.place]
      by_cases hplace : w.place other = w.place path
      · obtain ⟨content, hcontent⟩ := Option.isSome_iff_exists.mp hthere
        obtain ⟨hpath, -, -⟩ := file?_eq_some_iff.mp hcontent
        obtain ⟨hwritten, -, -⟩ := of_withText_eq_ok h
        have hnow := file?_of_withText hpath h
        rw [file?_of_locate hpath (hevolves.locate hwritten), hevolves.place] at hnow
        rw [hplace, ← file?_of_locate hpath hwritten]
        exact Or.inr ⟨rfl, hnow⟩
      · exact Or.inl ((hevolves.edits_contentAt? (w.place other)).eq_of_forall_not
          fun _ _ heq => hplace heq)
    · have hnone : ∀ v : Workspace,
          ¬ v.locate other = .ok (v.place other) → v.file? other = none := by
        intro v hv
        rw [Option.eq_none_iff_forall_ne_some]
        exact fun content hcontent => hv (file?_eq_some_iff.mp hcontent).2.1
      exact Or.inl (by rw [hnone w' (hlocated ∘ hlocate), hnone w hlocated])

end Workspace

namespace Registration

variable {change : String → Outcome × String} {outcome : Outcome} {w w' : Workspace}
  {path other name : String}

/-! ### Changing files -/

/-- **What becomes of any path when a file is changed**: it leads to what it led to before, or to
that file with its new text. -/
theorem file?_of_runIn_changeFile (h : runIn (changeFile path change) w = (.ok outcome, w'))
    (other : String) :
    w'.file? other = w.file? other ∨
      ∃ text, w.file? other = some (.text text) ∧ (change text).1 = .inserted ∧
        w'.file? other = some (.text (change text).2) := by
  obtain ⟨-, -, ⟨rfl, -⟩ | ⟨text, hfile, hinserted, hwrite⟩⟩ := of_runIn_changeFile_eq_ok h
  · exact Or.inl rfl
  · refine (Workspace.file?_of_rewrite hwrite (by rw [hfile]; rfl) other).imp_right ?_
    rintro ⟨hsame, hnow⟩
    exact ⟨text, hsame.trans hfile, hinserted, hnow⟩

/-! ### Declaring -/

/-- Whatever a path leads to declares a module. -/
def DeclaredAt (w : Workspace) (path name : String) : Prop :=
  ∀ content, w.file? path = some content →
    ∃ text, content = .text text ∧ (Text.lines text.toList).any (declares name) = true

/-- An index file declares a module after its declaration. -/
theorem declaredAt_of_declareInFile (hname : '\n' ∉ name.toList)
    (h : runIn (declareInFile path name) w = (.ok outcome, w')) : DeclaredAt w' path name := by
  intro content hcontent
  obtain ⟨hsaid, htext, ⟨rfl, hkept⟩ | ⟨text, hfile, -, hwrite⟩⟩ := of_runIn_changeFile_eq_ok h
  · cases content with
    | binary bytes => exact absurd hcontent (htext bytes)
    | text text =>
        refine ⟨text, rfl, ?_⟩
        rw [hcontent, said, fst_declareModule_eq] at hsaid
        by_contra hnot
        rw [if_neg hnot] at hsaid
        exact hkept hsaid
  · obtain ⟨hempty, -, -⟩ := Workspace.file?_eq_some_iff.mp hfile
    rw [Workspace.file?_of_withText hempty hwrite] at hcontent
    cases hcontent
    exact ⟨_, rfl, declared_declareModule_self text hname⟩

/-- **A module stays declared** while it is declared in other files. -/
theorem DeclaredAt.declareInFile (hname : '\n' ∉ name.toList) (hother : DeclaredAt w other name)
    (h : runIn (Registration.declareInFile path name) w = (.ok outcome, w')) :
    DeclaredAt w' other name := by
  intro content hcontent
  rcases file?_of_runIn_changeFile h other with hsame | ⟨text, hfile, -, hnow⟩
  · exact hother content (hsame ▸ hcontent)
  · rw [hnow] at hcontent
    cases hcontent
    exact ⟨_, rfl, declared_declareModule_self text hname⟩

end Registration

namespace Generator

variable {g : Generator} {w w' : Workspace} {name : String} {indexes : List String}

/-- **All index files declare a module** that was declared in them. -/
theorem declaredAt_of_declareIn (hname : '\n' ∉ name.toList)
    (h : runIn (declareIn indexes name) w = (.ok (), w')) :
    ∀ index ∈ indexes, Registration.DeclaredAt w' index name := by
  -- What is declared first stays so in all steps that follow.
  have hstays : ∀ {indexes : List String} {w : Workspace} {path : String},
      runIn (declareIn indexes name) w = (.ok (), w') → Registration.DeclaredAt w path name →
        Registration.DeclaredAt w' path name := by
    intro indexes
    induction indexes with
    | nil =>
        intro w path hrun hpath
        cases hrun
        exact hpath
    | cons index indexes ih =>
        intro w path hrun hpath
        rw [declareIn_cons] at hrun
        obtain ⟨outcome, w₁, hfirst, hrest⟩ := Stateful.runIn_bind_eq_ok hrun
        exact ih hrest (hpath.declareInFile hname hfirst)
  induction indexes generalizing w with
  | nil => simp
  | cons index indexes ih =>
      rw [declareIn_cons] at h
      obtain ⟨outcome, w₁, hfirst, hrest⟩ := Stateful.runIn_bind_eq_ok h
      exact List.forall_mem_cons.mpr
        ⟨hstays hrest (Registration.declaredAt_of_declareInFile hname hfirst), ih hrest⟩

/-! ### Registering -/

/-- An item that is registered is reported with what is said of it. -/
theorem of_runIn_registerItem_eq_ok {item list : String} {markers : List String}
    {injection : String × Registration.Outcome} {instruction : String}
    (h : runIn (g.registerItem item list markers) w = (.ok (injection, instruction), w')) :
    injection = (item, Registration.said (Registration.insertItem · item markers)
      (w.file? g.options.registrationPath)) ∧
    runIn (Registration.insertInFile g.options.registrationPath item markers) w =
      (.ok injection.2, w') := by
  obtain ⟨outcome, w₁, hinsert, hdone⟩ := Stateful.runIn_bind_eq_ok h
  cases hdone
  exact ⟨by rw [← (Registration.of_runIn_changeFile_eq_ok hinsert).1], hinsert⟩

/-- **What a registration reports and leaves.** It says of both items of the module what is said of
them in the registration file as it was before, as the first does not bring up the second; and all
index files declare the module afterwards. -/
theorem of_runIn_register_eq_ok {view : ModuleView} (hview : view.module = snakeCase name)
    {injections : List (String × Registration.Outcome)} {instructions : List String}
    (h : runIn (g.register view) w = (.ok (injections, instructions), w')) :
    injections = (ModuleView.itemsOf view.module).map (fun entry => (entry.1,
      Registration.said (Registration.insertItem · entry.1 entry.2)
        (w.file? g.options.registrationPath))) ∧
    ∀ index ∈ Layout.indexPaths g.options.outputDir,
      Registration.DeclaredAt w' index view.module := by
  rw [register_eq] at h
  obtain ⟨⟨first, step⟩, w₁, hlogic, h⟩ := Stateful.runIn_bind_eq_ok h
  obtain ⟨⟨second, step'⟩, w₂, hhandler, h⟩ := Stateful.runIn_bind_eq_ok h
  obtain ⟨_, w₃, hdeclare, hdone⟩ := Stateful.runIn_bind_eq_ok h
  cases hdone
  obtain ⟨hfirst, hinsert⟩ := of_runIn_registerItem_eq_ok hlogic
  obtain ⟨hsecond, -⟩ := of_runIn_registerItem_eq_ok hhandler
  have hsame : Registration.said
      (Registration.insertItem · view.handlerItem Registration.handlerMarkers)
        (w₁.file? g.options.registrationPath) =
      Registration.said (Registration.insertItem · view.handlerItem Registration.handlerMarkers)
        (w.file? g.options.registrationPath) := by
    rcases Registration.file?_of_runIn_changeFile hinsert g.options.registrationPath with
      hsame | ⟨text, hfile, -, hnow⟩
    · rw [hsame]
    · rw [hfile, hnow]
      exact Registration.insertItem_other (ModuleView.isItem_handlerItem hview)
        (ModuleView.isItem_logicItem hview)
        (ModuleView.not_infix_logicItem_handlerItem hview).2
        Registration.areMarkers_handlerMarkers Registration.areMarkers_logicMarkers text
  refine ⟨?_, declaredAt_of_declareIn ?_ hdeclare⟩
  · rw [hfirst, hsecond, hsame]
    rfl
  · rw [hview, snakeCase, String.toList_ofList]
    exact Text.not_mem_snake (by decide) (by decide) (by decide) _

/-- What a run does before it registers a module: it makes a view of it, and writes its files. -/
def writeModule (g : Generator) (document : Option Document) (name : String) :
    Generation (ModuleView × List (String × WriteOutcome)) := do
  let view ← Generation.ofWork (Work.ofExcept (g.view document name))
  let rendered ← Generation.ofWork (Work.ofExcept (g.renderFiles view))
  let _ ← g.ensureSupport
  let files ← rendered.mapM fun (path, content) => do
    return (path, ← Generation.ofWork (g.writer.write path content g.options.force))
  return (view, files)

/-- A run writes the files of a module, and then registers it. -/
theorem generateModule_eq (g : Generator) (document : Option Document) (name : String) :
    g.generateModule document name = (do
      let (view, files) ← g.writeModule document name
      let (injections, instructions) ← Generation.ofWork (g.register view)
      return { module := view.module, files, injections, instructions }) := by
  simp only [generateModule, writeModule, bind_assoc, pure_bind]

/-- **A run that succeeds ends with a registration**, in the session that writing the files of the
module comes to. -/
theorem exists_register_of_generateModule_eq_ok {document : Option Document}
    {report : ModuleReport} {s t : Session}
    (h : runIn (g.generateModule document name) s = (.ok report, t)) :
    ∃ view u, runIn (g.writeModule document name) s = (.ok (view, report.files), u) ∧
      view.module = snakeCase name ∧ report.module = view.module ∧
      runIn (g.register view) u.workspace =
        (.ok (report.injections, report.instructions), t.workspace) := by
  rw [generateModule_eq] at h
  obtain ⟨⟨view, files⟩, u, hwrite, h⟩ := Stateful.runIn_bind_eq_ok h
  obtain ⟨⟨injections, instructions⟩, v, hregister, hdone⟩ := Stateful.runIn_bind_eq_ok h
  cases hdone
  rw [Generation.runIn_ofWork, Prod.mk.injEq] at hregister
  refine ⟨view, u, hwrite, ?_, rfl, Prod.ext hregister.1 ?_⟩
  · obtain ⟨view', s₁, hview, hrest⟩ := Stateful.runIn_bind_eq_ok hwrite
    rw [Generation.runIn_ofExcept] at hview
    obtain ⟨rendered, s₂, -, hrest⟩ := Stateful.runIn_bind_eq_ok hrest
    obtain ⟨support, s₃, -, hrest⟩ := Stateful.runIn_bind_eq_ok hrest
    obtain ⟨files', s₄, -, hrest⟩ := Stateful.runIn_bind_eq_ok hrest
    cases hrest
    exact module_of_view_eq_ok (congrArg Prod.fst hview)
  · rw [← hregister.2]

end Generator

end ServiceGen
