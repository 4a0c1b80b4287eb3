import ServiceGen.Proofs.FileWork
import ServiceGen.Proofs.IndexLines
import ServiceGen.Proofs.ListRuns

/-!
# Runs of Declarations

Declaring modules in an index file, one after the other, adds one line for each of them that no line
of the file declares, in the order in which they come first (`withDeclarations`). Each declaration
looks at the text that the ones before have left, and finds the modules of the first text and
those of the run so far (`any_declares_withDeclarations`); so it adds its line exactly if its module
is none of these (`declareModule_withDeclarations`).

`runIn_mapM_declareInFile` says this of the file itself.
-/

namespace ServiceGen

open Stateful (runIn)

namespace Registration

variable {text name path : String} {names : List String} {w : Workspace}

/-! ### What a run leaves -/

/-- The modules among some that no line of a text declares, each once. -/
def undeclared (text : String) (names : List String) : List String :=
  names.eraseDups.filter fun name => !(Text.lines text.toList).any (declares name)

/-- A text with a line at its end for each of some modules that it does not declare. -/
def withDeclarations (text : String) (names : List String) : String :=
  if undeclared text names = [] then text else ended text ++ declarations (undeclared text names)

/-- What declaring a module says after some others have been declared. -/
def report (text : String) (before : List String) (name : String) : Outcome :=
  if name ∈ before ∨ (Text.lines text.toList).any (declares name) then .alreadyPresent
  else .inserted

/-- A declaration is reported as inserted or as present. -/
theorem report_eq_or (text : String) (before : List String) (name : String) :
    report text before name = .inserted ∨ report text before name = .alreadyPresent := by
  rw [report]
  split
  · exact Or.inr rfl
  · exact Or.inl rfl

/-- Among several names the last is undeclared when it is inserted. -/
theorem undeclared_concat (text : String) (names : List String) (name : String) :
    undeclared text (names ++ [name]) =
      if report text names name = .inserted then undeclared text names ++ [name]
      else undeclared text names := by
  rw [undeclared, undeclared, eraseDups_concat, report]
  by_cases hmem : name ∈ names
  · rw [if_pos hmem, if_pos (Or.inl hmem), if_neg (by decide)]
  · rw [if_neg hmem, List.filter_append]
    by_cases hdeclared : (Text.lines text.toList).any (declares name) = true
    · rw [if_pos (Or.inr hdeclared), if_neg (by decide),
        List.filter_cons_of_neg (by simp [hdeclared]), List.filter_nil, List.append_nil]
    · rw [if_neg (not_or.mpr ⟨hmem, hdeclared⟩), if_pos rfl,
        List.filter_cons_of_pos (by simp [hdeclared]), List.filter_nil]

/-- What the last of a run of declarations says. -/
theorem mapIdx_report_concat (text : String) (names : List String) (last : String) :
    ((names ++ [last]).mapIdx fun k name => report text ((names ++ [last]).take k) name) =
      (names.mapIdx fun k name => report text (names.take k) name) ++
        [report text names last] := by
  rw [List.mapIdx_concat, List.take_left]
  refine congrArg (· ++ _) (List.mapIdx_eq_mapIdx_iff.mpr fun k hk => ?_)
  rw [List.take_append_of_le_length hk.le]

/-- **One more module** gets a line, unless it has one. -/
theorem withDeclarations_concat (text : String) (names : List String) (name : String) :
    withDeclarations text (names ++ [name]) =
      if report text names name = .inserted then
        ended (withDeclarations text names) ++ (declaration name ++ "\n")
      else withDeclarations text names := by
  rw [withDeclarations, withDeclarations, undeclared_concat]
  by_cases hinserted : report text names name = .inserted
  · rw [if_pos hinserted, if_pos hinserted, if_neg (by simp), declarations_concat]
    split
    · rename_i hnone
      rw [hnone]
      exact congrArg (ended text ++ ·) String.empty_append
    · rename_i hsome
      rw [ended_append_declarations hsome, String.append_assoc]
  · rw [if_neg hinserted, if_neg hinserted]

/-- **What is declared after a run**: what was before it, and the modules of the run. -/
theorem any_declares_withDeclarations (hnames : ∀ other ∈ names, '\n' ∉ other.toList)
    (text name : String) :
    (Text.lines (withDeclarations text names).toList).any (declares name) = true ↔
      name ∈ names ∨ (Text.lines text.toList).any (declares name) = true := by
  -- The run so far is the one before its last module.
  induction names using List.reverseRecOn with
  | nil => simp [withDeclarations, undeclared]
  | append_singleton names last ih =>
      obtain ⟨hinit, hlast⟩ := List.forall_mem_append.mp hnames
      have hline : '\n' ∉ (declaration last).toList := by
        simp [declaration, String.toList_append, hlast last (List.mem_singleton_self last)]
      rw [withDeclarations_concat, List.mem_append, List.mem_singleton]
      split
      · rw [any_declares_append hline, Bool.or_eq_true, ih hinit]
        by_cases hname : name = last
        · subst hname
          simp [declares_declaration]
        · simp [declares_declaration_of_ne hname, hname]
      · rename_i hpresent
        rw [ih hinit]
        -- A module without a line of its own is there already.
        have hthere : name = last →
            name ∈ names ∨ (Text.lines text.toList).any (declares name) = true := by
          rintro rfl
          by_contra hnot
          exact hpresent (by rw [report, if_neg hnot])
        tauto

/-- **One more declaration** after a run. -/
theorem declareModule_withDeclarations (hnames : ∀ other ∈ names, '\n' ∉ other.toList)
    (text name : String) : declareModule (withDeclarations text names) name =
      (report text names name, withDeclarations text (names ++ [name])) := by
  rw [declareModule_eq, withDeclarations_concat, report]
  simp only [any_declares_withDeclarations hnames]
  split <;> rfl

/-! ### Runs on a file -/

/-- Declaring a module in a file after a run. -/
theorem exists_runIn_declareInFile (hnames : ∀ other ∈ names, '\n' ∉ other.toList)
    (hfile : w.file? path = some (.text (withDeclarations text names))) (name : String) :
    ∃ w', runIn (declareInFile path name) w = (.ok (report text names name), w') ∧
      w'.file? path = some (.text (withDeclarations text (names ++ [name]))) ∧
      (report text names name = .alreadyPresent → w' = w) := by
  have hchange := declareModule_withDeclarations hnames text name
  rw [declareInFile, runIn_changeFile, hfile]
  simp only [hchange]
  split
  · rename_i hinserted
    obtain ⟨w', hwrite⟩ := Workspace.exists_withText hfile (withDeclarations text (names ++ [name]))
    refine ⟨w', ?_, ?_, ?_⟩
    · rw [hwrite, hinserted]
    · exact Workspace.file?_of_withText (Workspace.file?_eq_some_iff.mp hfile).1 hwrite
    · rw [hinserted]
      rintro ⟨⟩
  · rename_i hpresent
    refine ⟨w, rfl, ?_, fun _ => rfl⟩
    rw [withDeclarations_concat, if_neg hpresent, hfile]

/-- **Declaring modules one after the other** in a file leaves the text that was there, with one
line at its end for each of them that no line of it declares, in the order in which they come first
(`withDeclarations`); if there are any, the last line of the text is ended before them. Whatever is
declared next either adds one line and is reported as inserted, or is reported as present and
changes nothing. -/
theorem runIn_mapM_declareInFile (hfile : w.file? path = some (.text text))
    (hnames : ∀ name ∈ names, '\n' ∉ name.toList) :
    ∃ w', runIn (names.mapM (declareInFile path)) w =
        (.ok (names.mapIdx fun k name => report text (names.take k) name), w') ∧
      w'.file? path = some (.text (withDeclarations text names)) ∧
      ∀ name, ∃ w'', runIn (declareInFile path name) w' = (.ok (report text names name), w'') ∧
        (report text names name = .inserted ∧ w''.file? path = some (.text
            (ended (withDeclarations text names) ++ (declaration name ++ "\n"))) ∨
          report text names name = .alreadyPresent ∧ w'' = w') := by
  have hrun : ∃ w', runIn (names.mapM (declareInFile path)) w =
        (.ok (names.mapIdx fun k name => report text (names.take k) name), w') ∧
      w'.file? path = some (.text (withDeclarations text names)) := by
    -- Each step finds the text that the run before it has left.
    induction names using List.reverseRecOn with
    | nil => exact ⟨w, rfl, by simpa [withDeclarations, undeclared] using hfile⟩
    | append_singleton names last ih =>
        obtain ⟨hinit, -⟩ := List.forall_mem_append.mp hnames
        obtain ⟨w₁, hrun, hleft⟩ := ih hinit
        obtain ⟨w₂, hlast, hnow, -⟩ := exists_runIn_declareInFile hinit hleft last
        refine ⟨w₂, ?_, hnow⟩
        rw [List.mapM_append, Stateful.runIn_bind_of_ok hrun, List.mapM_cons, List.mapM_nil,
          bind_assoc, Stateful.runIn_bind_of_ok hlast, mapIdx_report_concat]
        rfl
  obtain ⟨w', hrun, hleft⟩ := hrun
  refine ⟨w', hrun, hleft, fun name => ?_⟩
  obtain ⟨w'', hnext, hnow, hkept⟩ := exists_runIn_declareInFile hnames hleft name
  refine ⟨w'', hnext, ?_⟩
  rcases report_eq_or text names name with hinserted | hpresent
  · rw [withDeclarations_concat, if_pos hinserted] at hnow
    exact Or.inl ⟨hinserted, hnow⟩
  · exact Or.inr ⟨hpresent, hkept hpresent⟩

/-- A module that is new to an index, one that is declared in it, and the first one again. The text
has a comment without an end of its line. -/
theorem runIn_mapM_declareInFile_again :
    ∃ w' : Workspace, runIn (["books", "cards", "books"].mapM (declareInFile "mod.rs"))
        { tree := .directory [("mod.rs", .file (.text "  mod cards;\r\n// pub mod books;"))] } =
          (.ok [.inserted, .alreadyPresent, .alreadyPresent], w') ∧
      w'.file? "mod.rs" =
        some (.text "  mod cards;\r\n// pub mod books;\npub mod books;\n") := by
  have hindex : Workspace.file?
      { tree := .directory [("mod.rs", .file (.text "  mod cards;\r\n// pub mod books;"))] }
      "mod.rs" = some (.text "  mod cards;\r\n// pub mod books;") := by rfl
  have hnames : ∀ name ∈ ["books", "cards", "books"], '\n' ∉ name.toList := by decide
  obtain ⟨w', hrun, hfile, -⟩ := runIn_mapM_declareInFile hindex hnames
  refine ⟨w', hrun.trans (congrArg (fun said => (Except.ok said, w')) ?_), hfile.trans ?_⟩
  · decide +kernel
  · exact congrArg (fun text => some (FileContent.text text)) (by decide +kernel)

end Registration

end ServiceGen
