import ServiceGen.Proofs.DeclaredModules
import ServiceGen.Proofs.PascalCase
import ServiceGen.Proofs.RewrittenFiles

/-!
# Stems of Modules

Four parts of a run make names of the name of a module: the view puts it into snake case, the layout
of the files does so once more, the types are named in Pascal case after the first form, and items
and declarations are put together from both. For an ASCII name all of them agree, since its words
are found again in its snake-case form (`nameWords_snake`).

## Main results

* `snakeCase_snakeCase`, `pascalCase_snakeCase`: the forms of the snake-case form of an ASCII name.
* `fst_insertItem_addItems`: items of other stems change nothing of what is said of an item.
* `Generator.one_stem`: **one stem is that of all that a run makes**, and stems keep their files
  and items apart.
-/

namespace ServiceGen

/-! ### Forms of forms -/

namespace Text

variable {cs : List Char}

/-- The snake-case form of an ASCII name is ASCII. -/
theorem isAscii_of_mem_snake (h : ∀ c ∈ cs, Letter.isAscii c = true) :
    ∀ c ∈ snake cs, Letter.isAscii c = true := by
  intro c hc
  rcases mem_join hc with hc | ⟨piece, hpiece, hc⟩
  · rw [List.mem_singleton.mp hc]
    decide
  · obtain ⟨word, hword, rfl⟩ := List.mem_map.mp hpiece
    exact isAscii_of_small ((smallWord_lowerWord h hword).small c hc)

/-- **The words of an ASCII name are found again in its snake-case form**, in lower case. -/
theorem nameWords_snake (h : ∀ c ∈ cs, Letter.isAscii c = true) :
    nameWords (snake cs) = (nameWords cs).map lowerWord := by
  have hcapitals : ∀ c ∈ snake cs, Letter.isUpper c = false := fun c hc => by
    rw [Letter.isUpper, if_pos (isAscii_of_mem_snake h c hc), isUpper_eq_false_of_mem_snake hc]
  rw [nameWords_of_noCapitals hcapitals, snake]
  refine parts_join fun piece hpiece => ?_
  obtain ⟨word, hword, rfl⟩ := List.mem_map.mp hpiece
  have hsmall := smallWord_lowerWord h hword
  refine ⟨hsmall.ne_nil, fun c hc => ?_⟩
  rw [Letter.isWord_of_isAscii (isAscii_of_small (hsmall.small c hc))]
  rcases hsmall.small c hc with hlower | hdigit
  · simp [Char.isAlphanum, Char.isAlpha, hlower]
  · simp [Char.isAlphanum, hdigit]

/-- A small word is in lower case already. -/
theorem SmallWord.lowerWord_eq {word : List Char} (h : SmallWord word) : lowerWord word = word := by
  rw [lowerWord_of_ascii fun c hc => isAscii_of_small (h.small c hc),
    Letter.map_toLower_eq_self fun c hc => isUpper_of_small (h.small c hc)]

/-- The words of the snake-case form are in lower case already. -/
theorem map_lowerWord_nameWords_snake (h : ∀ c ∈ cs, Letter.isAscii c = true) :
    (nameWords (snake cs)).map lowerWord = (nameWords cs).map lowerWord := by
  rw [nameWords_snake h, List.map_map]
  refine List.map_congr_left fun word hword => ?_
  exact (smallWord_lowerWord h hword).lowerWord_eq

/-- The snake form of an ASCII name is its own snake form. -/
theorem snake_snake (h : ∀ c ∈ cs, Letter.isAscii c = true) : snake (snake cs) = snake cs := by
  rw [snake, map_lowerWord_nameWords_snake h, snake]

/-- An ASCII name and its snake form have the same Pascal form. -/
theorem pascal_snake (h : ∀ c ∈ cs, Letter.isAscii c = true) : pascal (snake cs) = pascal cs := by
  rw [pascal_eq_iff (isAscii_of_mem_snake h) h, pascalWords, pascalWords,
    map_lowerWord_nameWords_snake h]

end Text

section Names

variable {name : String} (h : ∀ c ∈ name.toList, Text.Letter.isAscii c = true)
include h

/-- **The snake-case form of an ASCII name is its own.** -/
theorem snakeCase_snakeCase : snakeCase (snakeCase name) = snakeCase name := by
  rw [snakeCase, snakeCase, String.toList_ofList, Text.snake_snake h]

/-- **An ASCII name and its snake-case form have one Pascal-case form.** -/
theorem pascalCase_snakeCase : pascalCase (snakeCase name) = pascalCase name := by
  rw [pascalCase, snakeCase, String.toList_ofList, Text.pascal_snake h, pascalCase]

end Names

/-! ### Files and items of stems -/

/-- The paths of the files of a stem: one in each of the module directories, and the two tests. -/
def Layout.stemPaths (root stem : String) (withTests : Bool) : List String :=
  (moduleDirs.map fun dir => modulePath root dir stem) ++
    if withTests then [testPath root (stem ++ "_logic.rs"), testPath root (stem ++ "_handlers.rs")]
    else []

/-- The files of a module are those of its stem. -/
theorem Layout.paths_eq_stemPaths (root module : String) (withTests : Bool) :
    paths root module withTests = stemPaths root (snakeCase module) withTests := by
  cases withTests <;> rfl

/-- **Different stems have no file in common**, with or without tests. -/
theorem Layout.disjoint_stemPaths {a b : String} (ha : snakeCase a = a) (hb : snakeCase b = b)
    (hne : a ≠ b) (root : String) (withTests withTests' : Bool) :
    List.Disjoint (stemPaths root a withTests) (stemPaths root b withTests') := by
  have hstem : ∀ {stem path : String} {withTests : Bool}, snakeCase stem = stem →
      path ∈ stemPaths root stem withTests → (decodeIn root path).2 = stem.toList := by
    intro stem path withTests hstem hpath
    rw [← hstem, ← paths_eq_stemPaths] at hpath
    rw [stem_of_mem_paths hpath, hstem]
  exact fun _ hpath hpath' =>
    hne (String.toList_inj.mp ((hstem ha hpath).symm.trans (hstem hb hpath')))

namespace Registration

open ModuleView (itemsOf)

/-- A source with some items added, one after the other. -/
def addItems (source : String) (items : List (String × List String)) : String :=
  items.foldl (fun text entry => (insertItem text entry.1 entry.2).2) source

/-- **Items of other stems** change nothing of what is said of an item. -/
theorem fst_insertItem_addItems {stem : String} (hstem : snakeCase stem = stem)
    {others : List String} (hothers : ∀ other ∈ others, stem ≠ other ∧ snakeCase other = other)
    {item : String} {markers : List String} (hitem : (item, markers) ∈ itemsOf stem)
    (source : String) :
    (insertItem (addItems source (others.flatMap itemsOf)) item markers).1 =
      (insertItem source item markers).1 := by
  have hall : ∀ entry ∈ others.flatMap itemsOf, ∃ other ∈ others, entry ∈ itemsOf other :=
    fun entry hentry => List.mem_flatMap.mp hentry
  generalize others.flatMap itemsOf = entries at hall
  induction entries generalizing source with
  | nil => rfl
  | cons entry entries ih =>
      obtain ⟨⟨other, hother, hentry⟩, hrest⟩ := List.forall_mem_cons.mp hall
      obtain ⟨hne, hother⟩ := hothers other hother
      rw [addItems, List.foldl_cons]
      refine (ih _ hrest).trans ?_
      rw [← hstem] at hitem hne
      rw [← hother] at hentry hne
      have hapart := ModuleView.not_infix_of_mem_itemsOf (ModuleView.not_mem_colon_snakeCase stem)
        (ModuleView.not_mem_colon_snakeCase other) hitem hentry (Or.inl hne)
      obtain ⟨hisItem, hmarkers⟩ := ModuleView.isItem_of_mem_itemsOf hitem
      obtain ⟨hisOther, hotherMarkers⟩ := ModuleView.isItem_of_mem_itemsOf hentry
      exact insertItem_other hisItem hisOther hapart hmarkers hotherMarkers source

end Registration

/-! ### Runs -/

namespace Generator

open ModuleView (itemsOf)
open Registration (DeclaredAt said insertItem addItems)

variable {g : Generator} {name : String} {report : ModuleReport} {t : Session}

/-- A run for an ASCII name that succeeds, from some document and some session, or without a
document. -/
def Makes (g : Generator) (name : String) (report : ModuleReport) (t : Session) : Prop :=
  (∀ c ∈ name.toList, Text.Letter.isAscii c = true) ∧
    ∃ document s, (g.generateModule document name).runOn s = (.ok report, t)

/-- A module is reported under the stem of its name. -/
theorem Makes.module_eq (h : g.Makes name report t) : report.module = snakeCase name := by
  obtain ⟨-, document, s, hrun⟩ := h
  exact (of_generateModule_eq_ok hrun).1

/-- The module that is reported is its own stem. -/
theorem Makes.snakeCase_module (h : g.Makes name report t) :
    snakeCase report.module = report.module := by
  rw [h.module_eq, snakeCase_snakeCase h.1]

/-- The files that are reported are those of the stem. -/
theorem Makes.map_files (h : g.Makes name report t) :
    report.files.map (·.1) =
      Layout.stemPaths g.options.outputDir report.module g.options.withTests := by
  have hstem := h.snakeCase_module
  obtain ⟨-, document, s, hrun⟩ := h
  obtain ⟨hmodule, hfiles⟩ := of_generateModule_eq_ok hrun
  rw [hfiles, ← hmodule, pathsOf, Layout.paths_eq_stemPaths, hstem]

/-- **What is reported of the items of a module** is what is said of them in the registration file,
in the session that writing the files of the module comes to; and the index files declare it. -/
theorem exists_injections_of_generateModule_eq_ok {document : Option Document} {s : Session}
    (h : (g.generateModule document name).runOn s = (.ok report, t)) :
    (∃ view u, (g.writeModule document name).runOn s = (.ok (view, report.files), u) ∧
      report.injections = (itemsOf report.module).map fun entry => (entry.1,
        said (insertItem · entry.1 entry.2) (u.workspace.file? g.options.registrationPath))) ∧
    ∀ index ∈ Layout.indexPaths g.options.outputDir,
      DeclaredAt t.workspace index report.module := by
  obtain ⟨view, u, hwrite, hview, hmodule, hregister⟩ := exists_register_of_generateModule_eq_ok h
  obtain ⟨hinjections, hindexes⟩ := of_runIn_register_eq_ok hview hregister
  rw [hmodule]
  exact ⟨⟨view, u, hwrite, hinjections⟩, hindexes⟩

/-- The items that are reported are those of the stem. -/
theorem Makes.map_injections (h : g.Makes name report t) :
    report.injections.map (·.1) = (itemsOf report.module).map (·.1) := by
  obtain ⟨-, document, s, hrun⟩ := h
  obtain ⟨⟨view, u, -, hinjections⟩, -⟩ := exists_injections_of_generateModule_eq_ok hrun
  rw [hinjections, List.map_map]
  rfl

/-- **One stem for a module.** Of a run for an ASCII name that succeeds, the module that is reported
is its own snake-case form and has the Pascal-case form of the name; its files, its items and its
declarations in all index files are those of this stem, and of each item is reported what is said of
it in the registration file that the run comes to when the files are written. Modules of different
stems have no file in common, and no item of one occurs in an item of the other. So whatever items
of other stems are added, to any source, what is said of the items of a module stays the same: that
they are there already is never said because of another module. -/
theorem one_stem :
    (∀ (g : Generator) (document : Option Document) (name : String) (report : ModuleReport)
      (s t : Session), (∀ c ∈ name.toList, Text.Letter.isAscii c = true) →
      (g.generateModule document name).runOn s = (.ok report, t) →
        snakeCase report.module = report.module ∧
        pascalCase report.module = pascalCase name ∧
        report.files.map (·.1) =
          Layout.stemPaths g.options.outputDir report.module g.options.withTests ∧
        (∃ view u, (g.writeModule document name).runOn s = (.ok (view, report.files), u) ∧
          report.injections = (itemsOf report.module).map fun entry => (entry.1,
            said (insertItem · entry.1 entry.2)
              (u.workspace.file? g.options.registrationPath))) ∧
        ∀ index ∈ Layout.indexPaths g.options.outputDir,
          DeclaredAt t.workspace index report.module) ∧
    (∀ (g g' : Generator) (name name' : String) (report report' : ModuleReport) (t t' : Session),
      g.Makes name report t → g'.Makes name' report' t' →
        g.options.outputDir = g'.options.outputDir → report.module ≠ report'.module →
          List.Disjoint (report.files.map (·.1)) (report'.files.map (·.1)) ∧
          ∀ item ∈ report.injections.map (·.1), ∀ item' ∈ report'.injections.map (·.1),
            ¬ item.toList <:+: item'.toList) ∧
    ∀ (g : Generator) (name : String) (report : ModuleReport) (t : Session)
      (others : List ModuleReport), g.Makes name report t →
        (∀ other ∈ others, report.module ≠ other.module ∧
          ∃ (g' : Generator) (name' : String) (t' : Session), g'.Makes name' other t') →
        ∀ entry ∈ itemsOf report.module, ∀ source : String,
          (insertItem (addItems source (others.flatMap fun other => itemsOf other.module))
            entry.1 entry.2).1 = (insertItem source entry.1 entry.2).1 := by
  refine ⟨fun g document name report s t hascii hrun => ?_,
    fun g g' name name' report report' t t' h h' hroot hne => ?_,
    fun g name report t others h hothers entry hentry source => ?_⟩
  · have h : g.Makes name report t := ⟨hascii, document, s, hrun⟩
    exact ⟨h.snakeCase_module, by rw [h.module_eq, pascalCase_snakeCase hascii], h.map_files,
      exists_injections_of_generateModule_eq_ok hrun⟩
  · constructor
    · rw [h.map_files, h'.map_files, ← hroot]
      exact Layout.disjoint_stemPaths h.snakeCase_module h'.snakeCase_module hne _ _ _
    · intro item hitem item' hitem'
      rw [h.map_injections] at hitem
      rw [h'.map_injections] at hitem'
      obtain ⟨⟨item, markers⟩, hentry, rfl⟩ := List.mem_map.mp hitem
      obtain ⟨⟨item', markers'⟩, hentry', rfl⟩ := List.mem_map.mp hitem'
      refine ModuleView.not_infix_of_mem_itemsOf ?_ ?_ hentry hentry' (Or.inl hne)
      · exact h.module_eq ▸ ModuleView.not_mem_colon_snakeCase name
      · exact h'.module_eq ▸ ModuleView.not_mem_colon_snakeCase name'
  · have hstems : ∀ stem ∈ others.map (·.module),
        report.module ≠ stem ∧ snakeCase stem = stem := by
      refine List.forall_mem_map.mpr fun other hother => ?_
      obtain ⟨hne, g', name', t', h'⟩ := hothers other hother
      exact ⟨hne, h'.snakeCase_module⟩
    have hsame := Registration.fst_insertItem_addItems h.snakeCase_module hstems hentry source
    rwa [List.flatMap_map] at hsame

/-- A run for a module of a document, in a new session. -/
def taggedRun (name : String) : Except Failure ModuleReport × Session :=
  ((blank ".").generateModule (some (tagged name)) name).runOn
    { workspace := {}, support := some {} }

/-- An accepted ASCII name is made into files of its stem. -/
theorem exists_makes {name stem : String} (hascii : name.toList.all Text.Letter.isAscii = true)
    (hrun : (taggedRun name).1.toOption.any (·.module == stem) = true) :
    ∃ report t, (blank ".").Makes name report t ∧ report.module = stem := by
  obtain ⟨report, t, hrun, hmodule⟩ := Generation.exists_runOn_of_any hrun
  exact ⟨report, t, ⟨List.all_eq_true.mp hascii, _, _, hrun⟩, eq_of_beq hmodule⟩

/-- A run of capitals ends before its last one. -/
theorem module_httpServer :
    (taggedRun "HTTPServer").1.toOption.any (·.module == "http_server") = true := by
  decide +kernel

/-- A hyphen separates words as well. -/
theorem module_httpsErver :
    (taggedRun "https-Erver").1.toOption.any (·.module == "https_erver") = true := by
  decide +kernel

/-- Two modules whose names differ by the ends of their words only have files and items of their
own. -/
theorem one_stem_httpServer :
    ∃ report t report' t', (blank ".").Makes "HTTPServer" report t ∧
      (blank ".").Makes "https-Erver" report' t' ∧
      report.module = "http_server" ∧ report'.module = "https_erver" ∧
      snakeCase report.module = report.module ∧
      List.Disjoint (report.files.map (·.1)) (report'.files.map (·.1)) ∧
      ∀ entry ∈ itemsOf report.module, ∀ source : String,
        (insertItem (addItems source (itemsOf report'.module)) entry.1 entry.2).1 =
          (insertItem source entry.1 entry.2).1 := by
  obtain ⟨report, t, hserver, hmodule⟩ := exists_makes (by decide) module_httpServer
  obtain ⟨report', t', herver, hmodule'⟩ := exists_makes (by decide) module_httpsErver
  have hne : report.module ≠ report'.module := by
    rw [hmodule, hmodule']
    decide
  obtain ⟨hone, htwo, hothers⟩ := one_stem
  have hsame := hothers _ _ _ _ [report'] hserver
    (List.forall_mem_singleton.mpr ⟨hne, _, _, _, herver⟩)
  rw [List.flatMap_singleton] at hsame
  have ⟨hascii, document, s, hrun⟩ := hserver
  exact ⟨report, t, report', t', hserver, herver, hmodule, hmodule',
    (hone _ document _ _ s _ hascii hrun).1,
    (htwo _ _ _ _ _ _ _ _ hserver herver rfl hne).1, hsame⟩

end Generator

end ServiceGen
