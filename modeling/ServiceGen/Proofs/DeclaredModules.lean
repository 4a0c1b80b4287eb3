import ServiceGen.Proofs.Conservation
import ServiceGen.Proofs.IdentifierLetters
import ServiceGen.Proofs.ScaffoldedModule

/-!
# Modules That Can Be Declared

A module is declared under the snake-case form of its name. A run refuses the names of its own
files and all reserved words, but it does not ask whether a name is an identifier at all. Where it
makes up a document, the document does (`isModuleSafe`), and so do the tags and paths that a batch
takes its modules from. Only a module that is asked for by name, and that a tag or path spells in
the same way, may begin with a digit, or have nothing in it.

## Main results

* `isIdentifier_module_iff`: **which modules can be declared.**
* `not_forall_isIdentifier_module`: the module `42` is generated, and cannot be.
-/

namespace ServiceGen

open ModuleName (Canonical)
open Text (leading? beginsWithLetter)

/-! ### Names of modules as identifiers -/

/-- A name without a letter or digit has no snake-case form. -/
theorem snakeCase_eq_empty {name : String} (h : leading? name.toList = none) :
    snakeCase name = "" := by
  have hfilter : name.toList.filter Text.Letter.isWord = [] := by
    simpa [leading?] using h
  have hwords : Text.nameWords name.toList = [] := by
    rw [← Text.flatten_nameWords] at hfilter
    by_contra hne
    obtain ⟨word, hword⟩ := List.exists_mem_of_ne_nil _ hne
    exact Text.ne_nil_of_mem_nameWords hword (List.flatten_eq_nil_iff.mp hfilter word hword)
  rw [snakeCase, Text.snake, hwords]
  rfl

/-- **The snake-case form of an ASCII name is an identifier** exactly if the first letter or digit
of the name is a letter. -/
theorem isIdentifier_snakeCase_iff {name : String}
    (h : ∀ c ∈ name.toList, Text.Letter.isAscii c = true) :
    isIdentifier (snakeCase name) = true ↔ beginsWithLetter name.toList = true := by
  cases hleading : leading? name.toList with
  | none =>
      rw [snakeCase_eq_empty hleading, beginsWithLetter, hleading]
      decide
  | some c =>
      have hled : Text.AsciiLed name.toList :=
        ⟨c, hleading, h c (List.mem_of_find?_eq_some hleading)⟩
      rw [isIdentifier_snake_iff hled]
      exact and_iff_left (Text.spellable_of_ascii h)

/-- The snake-case form of a name that can stand as it is, is an identifier. -/
theorem isIdentifier_snakeCase_of_isModuleSafe {name : String} (h : isModuleSafe name = true) :
    isIdentifier (snakeCase name) = true := by
  refine (isIdentifier_snakeCase_iff fun c hc => (of_mem_of_isModuleSafe h hc).isAscii).mpr ?_
  rw [isModuleSafe] at h
  cases hname : name.toList with
  | nil =>
      rw [hname] at h
      cases h
  | cons first rest =>
      rw [hname, Bool.and_eq_true] at h
      have halnum : first.isAlphanum = true := by simp [Char.isAlphanum, h.1]
      have hword : Text.Letter.isWord first = true := by
        rw [Text.Letter.isWord_of_isAscii (Text.Letter.isAscii_of_isAlphanum halnum), halnum]
      rw [beginsWithLetter, leading?, List.find?_cons_of_pos hword, Option.any_some, h.1]

/-- A name that can stand as it is and has no hyphen is an identifier. -/
theorem isIdentifier_of_isModuleSafe {name : String} (h : isModuleSafe name = true)
    (hhyphen : '-' ∉ name.toList) : isIdentifier name = true := by
  have hcontinue : ∀ c ∈ name.toList, Text.Letter.isIdentifierContinue c = true := by
    intro c hc
    rcases of_mem_of_isModuleSafe h hc with halnum | rfl | rfl
    · exact Text.Letter.isIdentifierContinue_of_isAlphanum halnum
    · decide
    · exact absurd hc hhyphen
  rw [isModuleSafe] at h
  cases hname : name.toList with
  | nil =>
      rw [hname] at h
      cases h
  | cons first rest =>
      rw [hname, Bool.and_eq_true] at h
      exact (isIdentifier_iff_of_isAlphanum hname (by simp [Char.isAlphanum, h.1])).mpr
        ⟨h.1, hcontinue⟩

/-! ### Modules of runs -/

namespace Generator

/-- The reports of a batch come from runs for its modules. -/
theorem BatchRun.exists_runIn {g : Generator} {d : Document} {names : List String}
    {batch : BatchReport} {s t : Session} (h : BatchRun g d names s batch t) :
    ∀ report ∈ batch.reports, ∃ name ∈ names, ∃ before after,
      Stateful.runIn (g.generateModule (some d) name) before = (.ok report, after) := by
  induction h with
  | done s => simp
  | @report name names report batch s s' t hrun hrest ih =>
      refine List.forall_mem_cons.mpr
        ⟨⟨name, List.mem_cons_self, s, s', hrun⟩, fun other hother => ?_⟩
      obtain ⟨name, hname, hother⟩ := ih other hother
      exact ⟨name, List.mem_cons_of_mem _ hname, hother⟩
  | failure hrun hrest ih =>
      intro other hother
      obtain ⟨name, hname, hother⟩ := ih other hother
      exact ⟨name, List.mem_cons_of_mem _ hname, hother⟩

/-- A module that is generated has no reserved word for a name. -/
theorem isReservedWord_module {g : Generator} {document : Option Document} {name : String}
    {report : ModuleReport} {s t : Session}
    (h : Stateful.runIn (g.generateModule document name) s = (.ok report, t)) :
    isReservedWord report.module = false := by
  have hname := (of_generateModule_eq_ok h).1
  rw [runIn_generateModule] at h
  cases hview : g.view document name with
  | error failure =>
      rw [hview] at h
      cases h
  | ok view =>
      have hreserved := isReserved_of_view_eq_ok hview
      rw [Layout.isReserved, Bool.or_eq_false_iff] at hreserved
      rw [hname]
      exact hreserved.2

/-- A module that is made up has an identifier for a name. -/
theorem isIdentifier_module_of_none {g : Generator} {name : String} {report : ModuleReport}
    {s t : Session} (h : Stateful.runIn (g.generateModule none name) s = (.ok report, t)) :
    isIdentifier report.module = true := by
  rw [(of_generateModule_eq_ok h).1]
  rw [runIn_generateModule] at h
  cases hview : g.view none name with
  | error failure =>
      rw [hview] at h
      cases h
  | ok view =>
      rw [view_eq] at hview
      split at hview
      · cases hview
      · obtain ⟨d, hd, -⟩ := Outcome.bind_eq_ok.mp hview
        refine isIdentifier_of_isModuleSafe (Scaffold.routes_of_document_eq_ok hd).1 ?_
        rw [snakeCase, String.toList_ofList]
        exact Text.not_mem_snake (by decide) (by decide) (by decide) _

/-- **Which modules can be declared.** A module is declared under the snake-case form of its name,
and that is never a reserved word. It is an identifier where the module is made up, or is generated
in a batch. A module of a document that is asked for by an ASCII name has an identifier exactly if
the first letter or digit of the name is a letter. -/
theorem isIdentifier_module_iff (g : Generator) :
    (∀ (document : Option Document) (name : String) (report : ModuleReport) (s t : Session),
      (g.generateModule document name).runOn s = (.ok report, t) →
        report.module = snakeCase name ∧ isReservedWord report.module = false ∧
        (document = none → isIdentifier report.module = true) ∧
        ((∀ c ∈ name.toList, Text.Letter.isAscii c = true) →
          (isIdentifier report.module = true ↔ beginsWithLetter name.toList = true))) ∧
    ∀ (d : Document) (batch : BatchReport) (s t : Session),
      (g.generateAll d).runOn s = (.ok batch, t) →
        ∀ report ∈ batch.reports,
          isIdentifier report.module = true ∧ isReservedWord report.module = false := by
  constructor
  · intro document name report s t h
    have hname := (of_generateModule_eq_ok h).1
    refine ⟨hname, isReservedWord_module h, ?_, fun hascii => ?_⟩
    · rintro rfl
      exact isIdentifier_module_of_none h
    · rw [hname]
      exact isIdentifier_snakeCase_iff hascii
  · intro d batch s t h report hreport
    obtain ⟨support, s', -, hbatch⟩ := of_generateAll_eq_ok h
    obtain ⟨name, hmem, before, after, hrun⟩ := hbatch.exists_runIn report hreport
    refine ⟨?_, isReservedWord_module hrun⟩
    rw [(of_generateModule_eq_ok hrun).1]
    exact isIdentifier_snakeCase_of_isModuleSafe
      (Document.canonical_of_mem_primaryModules hmem).safe

/-- A document with one operation under a tag. -/
def tagged (tag : String) : Document where
  paths := [("/x", { get := some { tags := [tag] } })]

/-- The module `book` of a document can be declared, in a batch and by itself. -/
theorem isIdentifier_module_book :
    (∃ batch t, ((blank ".").generateAll (tagged "book")).runOn
        { workspace := {}, support := some {} } = (.ok batch, t) ∧
      batch.reports ≠ [] ∧ ∀ report ∈ batch.reports, isIdentifier report.module = true) ∧
    ∃ report s t, ((blank ".").generateModule (some (tagged "book")) "book").runOn s =
        (.ok report, t) ∧ isIdentifier report.module = true := by
  have hall : (((blank ".").generateAll (tagged "book")).runOn
      { workspace := {}, support := some {} }).1.toOption.any (!·.reports.isEmpty) = true := by
    decide +kernel
  obtain ⟨batch, t, hbatch, hsome⟩ := Generation.exists_runOn_of_any hall
  have hreports : batch.reports ≠ [] := by simpa using hsome
  refine ⟨⟨batch, t, hbatch, hreports, fun report hreport =>
    ((isIdentifier_module_iff _).2 _ _ _ _ hbatch report hreport).1⟩, ?_⟩
  -- The module of the batch is one that can be asked for by its name, too.
  obtain ⟨report, hreport⟩ := List.exists_mem_of_ne_nil _ hreports
  obtain ⟨support, s', -, hrun⟩ := of_generateAll_eq_ok hbatch
  obtain ⟨name, hname, before, after, hmodule⟩ := hrun.exists_runIn report hreport
  have hbook : (tagged "book").primaryModules = ["book"] := by decide +kernel
  rw [hbook, List.mem_singleton] at hname
  subst hname
  have hascii : "book".toList.all Text.Letter.isAscii = true := by decide
  exact ⟨report, before, after, hmodule,
    (((isIdentifier_module_iff _).1 _ _ _ _ _ hmodule).2.2.2 (List.all_eq_true.mp hascii)).mpr
      (by decide)⟩

/-- The module `42` of a document is generated, and cannot be declared. -/
theorem not_forall_isIdentifier_module : ¬ ∀ (g : Generator) (document : Option Document)
    (name : String) (report : ModuleReport) (s t : Session),
    (∀ c ∈ name.toList, Text.Letter.isAscii c = true) →
      (g.generateModule document name).runOn s = (.ok report, t) →
        isIdentifier report.module = true ∧ isReservedWord report.module = false := by
  intro hall
  have hgiven : (((blank ".").generateModule (some (tagged "42")) "42").runOn
      { workspace := {}, support := some {} }).1.toOption.any (·.module == "42") = true := by
    decide +kernel
  obtain ⟨report, t, hrun, hmodule⟩ := Generation.exists_runOn_of_any hgiven
  have hascii : "42".toList.all Text.Letter.isAscii = true := by decide
  have hname := (hall _ _ _ _ _ _ (List.all_eq_true.mp hascii) hrun).1
  rw [eq_of_beq hmodule] at hname
  exact absurd hname (by decide)

end Generator

end ServiceGen
