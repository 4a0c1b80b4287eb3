import ServiceGen.Proofs.RepeatedWork

/-!
# The Old Helper File and the Sources of Handlers

What a run that provides the support files looks at before it writes anything. The old helper file
is cleared once (`Support.rests_later`): after that it is nothing but the stub, or it has something
of its own. The sources of the handlers (`Support.sourceFiles`) stay sources, and what they mention
they go on to mention (`Support.exists_mentions_later`), as nothing but declarations is added to
them (`Generator.LaterRule`).
-/

namespace ServiceGen

open Stateful (runIn Moves Cumulative)
open Workspace (Conserves cumulative_conserves Inside)
open Layout (wireNames indexNames helperNames fileNames ownNames moduleDirs)

/-! ### The old file -/

namespace Support

variable {g : Generator} {root path : String} {w w' w'' : Workspace} {requested : String → Prop}

/-- The old file needs no clearing. -/
inductive Rests : Option FileContent → Prop
  | missing : Rests none
  | text {text : String} (h : (text == legacyStub || !isStale text) = true) :
      Rests (some (.text text))

/-- Where the file rests, nothing is normalized. -/
theorem runIn_normalizeLegacy_of_rests (h : Rests (w.file? path)) :
    runIn (normalizeLegacy path) w = (.ok false, w) := by
  rw [runIn_normalizeLegacy]
  generalize w.file? path = content at h
  cases h with
  | missing => rfl
  | text h => exact if_pos h

/-- After clearing, the old file needs none. -/
theorem rests_of_runIn_normalizeLegacy {cleared : Bool} (hempty : path.isEmpty = false)
    (h : runIn (normalizeLegacy path) w = (.ok cleared, w')) : Rests (w'.file? path) := by
  rw [runIn_normalizeLegacy] at h
  cases hfile : w.file? path with
  | none =>
      rw [hfile] at h
      cases h
      rw [hfile]
      exact .missing
  | some content =>
      rw [hfile] at h
      cases content with
      | binary bytes => cases h
      | text text =>
          dsimp only at h
          split at h
          · rename_i hrests
            cases h
            rw [hfile]
            exact .text hrests
          · cases hwrite : w.withText path legacyStub with
            | error fault =>
                rw [hwrite] at h
                cases h
            | ok made =>
                rw [hwrite] at h
                cases h
                rw [Workspace.file?_of_withText hempty hwrite]
                exact .text ((Bool.or_eq_true _ _).mpr (Or.inl (beq_self_eq_true _)))

/-- Where nothing was cleared, nothing has changed. -/
theorem eq_of_runIn_normalizeLegacy (h : runIn (normalizeLegacy path) w = (.ok false, w')) :
    w' = w := by
  rw [runIn_normalizeLegacy] at h
  split at h
  · cases h
    rfl
  · cases h
  · split at h
    · cases h
      rfl
    · split at h <;> cases h

/-- Where the old file needs no clearing, a session leaves it alone. -/
theorem Rests.eq_of_edits (hrequested : ∀ name, requested name → Layout.isReserved name = false)
    {base : List String} {before after : Option FileContent} (h : Rests before)
    (hedits : Edits (Below base (g.ProjectRule requested)) (base ++ helperNames "helpers.rs") before
      after) : after = before := by
  rcases Relation.ReflTransGen.cases_head hedits with heq | ⟨_, ⟨text, hedit, -⟩, -⟩
  · exact heq.symm
  · obtain ⟨-, old, rfl, hstub, hstale⟩ :=
      Generator.ProjectRule.of_legacy hrequested (below_append_iff.mp hedit)
    obtain _ | hrests := h
    rcases (Bool.or_eq_true _ _).mp hrests with hsame | hfresh
    · exact absurd (beq_iff_eq.mp hsame) hstub
    · rw [hstale] at hfresh
      cases hfresh

/-- **The old file is cleared once.** -/
theorem rests_later (hrequested : ∀ name, requested name → Layout.isReserved name = false)
    {cleared : Bool} (hsettled : w'.Settled root)
    (hrun : runIn (normalizeLegacy (Layout.legacyHelperPath root)) w = (.ok cleared, w'))
    (hlater : Conserves root (g.ProjectRule requested) w' w'') :
    Rests (w''.file? (Layout.legacyHelperPath root)) := by
  have hinside := Layout.inside_legacy root
  have hrests := rests_of_runIn_normalizeLegacy hinside.isEmpty_eq_false hrun
  have hedits := (hlater hsettled).edits_file? (hinside.settled_iff.mpr hsettled)
  rw [hinside.place] at hedits
  rw [hrests.eq_of_edits hrequested hedits]
  exact hrests

/-! ### Sources -/

/-- The sources below a directory. -/
def sourceFiles (w : Workspace) (dir : String) : List (List String × FileContent) :=
  match w.look dir with
  | .ok (.directory entries) => (FileTree.directory entries).files.filter (isSource ·.1)
  | _ => []

/-- What is read of a source. -/
def sourceText (dir : String) (file : List String × FileContent) : Except Failure String :=
  match file.2.text? with
  | some text => .ok text
  | none => .error (.file .read (joinPath dir ("/".intercalate file.1)) .notText)

/-- Reading the sources below a directory changes nothing. -/
theorem runIn_sourcesBelow (dir : String) (w : Workspace) :
    runIn (sourcesBelow dir) w = ((sourceFiles w dir).mapM (sourceText dir), w) := by
  have hread : ∀ (file : List String × FileContent), runIn (Work.orFault .read
      (joinPath dir ("/".intercalate file.1)) (match file.2.text? with
        | some text => .ok text
        | none => .error .notText)) w = (sourceText dir file, w) := by
    intro file
    rw [Work.runIn_orFault, sourceText]
    cases file.2.text? <;> rfl
  rw [sourcesBelow, Stateful.runIn_get_bind, sourceFiles]
  cases w.look dir with
  | error fault => rfl
  | ok found =>
      cases found with
      | file content => rfl
      | directory entries => exact Stateful.runIn_mapM_of_unchanged fun file _ => hread file

/-- Sources are read if all are texts. -/
theorem mapM_sourceText_eq_ok_iff {dir : String} {files : List (List String × FileContent)}
    {texts : List String} : files.mapM (sourceText dir) = .ok texts ↔
      files.map Prod.snd = texts.map FileContent.text := by
  induction files generalizing texts with
  | nil =>
      constructor
      · rintro ⟨⟩
        rfl
      · intro h
        rw [List.map_eq_nil_iff.mp h.symm]
        rfl
  | cons file files ih =>
      obtain ⟨place, content⟩ := file
      rw [List.mapM_cons, List.map_cons]
      constructor
      · intro h
        obtain ⟨text, htext, h⟩ := Outcome.bind_eq_ok.mp h
        obtain ⟨others, hothers, h⟩ := Outcome.bind_eq_ok.mp h
        cases h
        cases content with
        | binary bytes => cases htext
        | text value =>
            cases htext
            rw [List.map_cons, ih.mp hothers]
      · intro h
        cases texts with
        | nil => cases h
        | cons text others =>
            obtain ⟨hcontent, hothers⟩ := List.cons.inj h
            subst hcontent
            rw [ih.mpr hothers]
            rfl

/-- Where every file holds text, all sources are read. -/
theorem exists_mapM_sourceText (dir : String) {files : List (List String × FileContent)}
    (h : ∀ file ∈ files, ∃ text, file.2 = .text text) :
    ∃ texts, files.mapM (sourceText dir) = .ok texts := by
  simp only [mapM_sourceText_eq_ok_iff]
  induction files with
  | nil => exact ⟨[], rfl⟩
  | cons file files ih =>
      obtain ⟨⟨text, htext⟩, hfiles⟩ := List.forall_mem_cons.mp h
      obtain ⟨texts, htexts⟩ := ih hfiles
      exact ⟨text :: texts, by rw [List.map_cons, List.map_cons, htext, htexts]⟩

/-- A source is a file below the directory that is judged one by its place. -/
theorem mem_sourceFiles_iff {dir : String} {file : List String × FileContent} :
    file ∈ sourceFiles w dir ↔
      ∃ found, w.look dir = .ok found ∧ file ∈ found.files ∧ isSource file.1 = true := by
  rw [sourceFiles]
  cases w.look dir with
  | error fault => simp
  | ok found =>
      cases found with
      | directory entries => simp [List.mem_filter]
      | file content =>
          have hroot : isSource [] = false := by decide
          simp only [List.not_mem_nil, Except.ok.injEq, exists_eq_left', FileTree.files_file,
            List.mem_singleton, false_iff, not_and]
          rintro rfl
          simpa using hroot

/-- Sources that are read are texts. -/
theorem forall_text_of_mapM_sourceText {dir : String} {files : List (List String × FileContent)}
    {texts : List String} (h : files.mapM (sourceText dir) = .ok texts) :
    ∀ file ∈ files, ∃ text, file.2 = .text text := by
  intro file hfile
  have hmem : file.2 ∈ texts.map FileContent.text :=
    mapM_sourceText_eq_ok_iff.mp h ▸ List.mem_map_of_mem hfile
  obtain ⟨text, -, heq⟩ := List.mem_map.mp hmem
  exact ⟨text, heq.symm⟩

/-- Some source of a list contains a fragment. -/
theorem any_mentions_iff {files : List (List String × FileContent)} {texts : List String}
    (h : files.map Prod.snd = texts.map FileContent.text) (fragment : String) :
    texts.any (mentions fragment) = true ↔
      ∃ place text, (place, .text text) ∈ files ∧ mentions fragment text = true := by
  rw [List.any_eq_true]
  constructor
  · rintro ⟨text, htext, hmentions⟩
    have hmem : FileContent.text text ∈ files.map Prod.snd := h ▸ List.mem_map_of_mem htext
    obtain ⟨⟨place, content⟩, hfile, rfl⟩ := List.mem_map.mp hmem
    exact ⟨place, text, hfile, hmentions⟩
  · rintro ⟨place, text, hfile, hmentions⟩
    have hmem : FileContent.text text ∈ texts.map FileContent.text := h ▸ List.mem_map_of_mem hfile
    obtain ⟨_, htext, heq⟩ := List.mem_map.mp hmem
    cases heq
    exact ⟨text, htext, hmentions⟩

end Support

namespace Generator

variable {g : Generator} {requested : String → Prop} {names : List String} {text : String}

/-- The edits of a session once the old helper file is cleared. -/
def LaterRule (g : Generator) (requested : String → Prop) : EditRule := fun names before text =>
  (before = none ∧ Support.Rule names before text) ∨ g.Rule requested names before text

/-- The rule of later runs is part of the rule of the project. -/
theorem LaterRule.project {before : Option FileContent}
    (h : g.LaterRule requested names before text) : g.ProjectRule requested names before text :=
  h.imp_left And.right

/-- A handler source that is there is edited by declarations only. -/
theorem LaterRule.of_handlers (hforce : g.options.force = false) {rest : List String} {old : String}
    (h : g.LaterRule requested ("src" :: "handlers" :: rest) (some (.text old)) text) :
    ∃ name, text = (Registration.declareModule old name).2 := by
  generalize hnames : "src" :: "handlers" :: rest = names at h
  rcases h with ⟨hnone, -⟩ | h
  · cases hnone
  · cases h with
    | item item hmarkers old => simp [wireNames] at hnames
    | declaration hdir hname old => exact ⟨_, rfl⟩
    | file hname hmem hbefore text =>
        rcases hbefore with hnone | hreplace
        · cases hnone
        · rw [hforce] at hreplace
          cases hreplace

end Generator

namespace Support

variable {g : Generator} {root : String} {w w' : Workspace} {requested : String → Prop}

/-- A declaration keeps what a text contains. -/
theorem mentions_declareModule {fragment text : String} (h : mentions fragment text = true)
    (name : String) : mentions fragment (Registration.declareModule text name).2 = true := by
  rw [mentions, Text.contains_iff] at h ⊢
  rw [Registration.declareModule_eq]
  split
  · exact h
  · obtain ⟨ending, -, hended⟩ := Registration.exists_ending text
    rw [hended, String.toList_append, String.toList_append, List.append_assoc]
    exact h.trans (List.prefix_append _ _).isInfix

/-- Declaring modules keeps what a text mentions. -/
theorem mentions_of_declarations {fragment text new : String}
    (hchain : Relation.ReflTransGen
      (fun old new => ∃ name, new = (Registration.declareModule old name).2) text new)
    (h : mentions fragment text = true) : mentions fragment new = true := by
  induction hchain with
  | refl => exact h
  | tail _ hstep ih =>
      obtain ⟨name, rfl⟩ := hstep
      exact mentions_declareModule ih name

/-- Sources stay texts, and new ones are texts. -/
theorem forall_sourceFiles_later {A : EditRule} {dir : String} (hsettled : w.Settled dir)
    (hevolves : Evolves A w w') (h : ∀ file ∈ sourceFiles w dir, ∃ text, file.2 = .text text) :
    ∀ file ∈ sourceFiles w' dir, ∃ text, file.2 = .text text := by
  rintro ⟨rest, content'⟩ hfile
  obtain ⟨found', hlook', hmem', hsource⟩ := mem_sourceFiles_iff.mp hfile
  obtain ⟨hempty, hlocate', hfound'⟩ := Workspace.look_eq_ok_iff.mp hlook'
  rcases hevolves.comes hfound' rest content' hmem' with
    ⟨found, content, hfound, hmem, hedits⟩ | hedits
  · rw [hevolves.place] at hfound
    have hlocate := hevolves.locate_before hsettled hlocate'
      (Option.isSome_iff_exists.mpr ⟨found, hfound⟩)
    obtain ⟨text, rfl⟩ := h (rest, content) (mem_sourceFiles_iff.mpr
      ⟨found, Workspace.look_eq_ok_iff.mpr ⟨hempty, hlocate, hfound⟩, hmem, hsource⟩)
    obtain ⟨new, hnew, -⟩ := hedits.exists_reflTransGen (R := fun _ _ => True) fun _ _ _ => trivial
    exact ⟨new, Option.some.inj hnew⟩
  · exact hedits.exists_text

/-- A source that contains a fragment still does, and is one still. -/
theorem exists_mentions_later (hforce : g.options.force = false)
    (hevolves : Evolves (Below (w.place root) (g.LaterRule requested)) w w')
    {fragment text : String} {rest : List String}
    (hfile : (rest, .text text) ∈ sourceFiles w (Layout.handlersDir root))
    (h : mentions fragment text = true) :
    ∃ new, (rest, .text new) ∈ sourceFiles w' (Layout.handlersDir root) ∧
      mentions fragment new = true := by
  obtain ⟨found, hlook, hmem, hsource⟩ := mem_sourceFiles_iff.mp hfile
  obtain ⟨hempty, hlocate, hfound⟩ := Workspace.look_eq_ok_iff.mp hlook
  obtain ⟨found', hfound', -, hfiles⟩ := hevolves.stays hfound
  obtain ⟨content', hmem', hedits⟩ := hfiles rest (.text text) hmem
  rw [(Layout.inside_handlersDir root).place, List.append_assoc] at hedits
  obtain ⟨new, hnew, hchain⟩ := hedits.exists_reflTransGen
    fun old text hedit => Generator.LaterRule.of_handlers hforce (below_append_iff.mp hedit)
  obtain rfl : content' = .text new := Option.some.inj hnew
  have hlook' : w'.look (Layout.handlersDir root) = .ok found' :=
    Workspace.look_eq_ok_iff.mpr ⟨hempty, hevolves.locate hlocate, by rw [hevolves.place, hfound']⟩
  exact ⟨new, mem_sourceFiles_iff.mpr ⟨found', hlook', hmem', hsource⟩,
    mentions_of_declarations hchain h⟩

end Support

end ServiceGen
