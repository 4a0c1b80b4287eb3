import ServiceGen.Proofs.Words
import ServiceGen.Registration

/-!
# Lines of Module Indexes

What declaring modules does to the text of an index file. Each declaration leaves the text as it
is or adds a line to it (`declareModule_eq`), so what a chain of declarations adds is lines only
(`exists_declarations`). A module is found declared after its declaration
(`declared_declareModule_self`), and stays so behind those of others (`declared_declareModule`).
-/

namespace ServiceGen

/-! ### Lines -/

namespace Text

/-- White space at the end is not seen after trimming. -/
theorem trim_append_singleton {c : Char} (hc : Letter.isBlank c = true) (cs : List Char) :
    trim (cs ++ [c]) = trim cs := by
  rw [trim, trim, trimStart, trimStart, List.dropWhile_append]
  split
  · rename_i hblank
    rw [List.isEmpty_iff.mp hblank, List.dropWhile_cons_of_pos hc, List.dropWhile_nil]
  · rw [trimEnd, trimEnd, List.reverse_append, List.reverse_singleton, List.singleton_append,
      List.dropWhile_cons_of_pos hc]

/-- The carriage return at the end of a line is trimmed anyway. -/
theorem trim_withoutReturn (line : List Char) : trim (withoutReturn line) = trim line := by
  rw [withoutReturn]
  split
  · rename_i hreturn
    obtain ⟨before, rfl⟩ := List.getLast?_eq_some_iff.mp (by simpa using hreturn)
    rw [List.dropLast_concat, trim_append_singleton (by decide)]
  · rfl

/-- A text that begins and ends with other characters than white space is trimmed. -/
theorem trim_cons_concat {first last : Char} (hfirst : Letter.isBlank first = false)
    (hlast : Letter.isBlank last = false) (middle : List Char) :
    trim (first :: (middle ++ [last])) = first :: (middle ++ [last]) := by
  rw [trim, trimStart, List.dropWhile_cons_of_neg (by simp [hfirst]), trimEnd,
    ← List.cons_append, List.reverse_append, List.reverse_singleton, List.singleton_append,
    List.dropWhile_cons_of_neg (by simp [hlast]), ← List.singleton_append, List.reverse_append,
    List.reverse_reverse, List.reverse_singleton]

/-- A property of some line is one of some piece between line feeds, if it does not depend on
carriage returns and the empty text does not have it. -/
theorem any_lines {p : List Char → Bool} (hnil : p [] = false)
    (hreturn : ∀ line, p (withoutReturn line) = p line) (cs : List Char) :
    (lines cs).any p = (splitAtChar '\n' cs).any p := by
  have hreturns : ∀ ended : List (List Char), (ended.map withoutReturn).any p = ended.any p := by
    intro ended
    rw [List.any_map]
    exact congrArg (ended.any ·) (funext hreturn)
  have hpieces : (splitAtChar '\n' cs).any p = (splitAtChar '\n' cs).reverse.any p :=
    List.any_reverse.symm
  rw [hpieces, lines]
  split
  · rename_i hnone
    rw [hnone]
  · rename_i ended hended
    rw [hended, List.any_reverse, hreturns, List.any_cons, hnil, Bool.false_or]
  · rename_i last ended _ hlast
    rw [hlast, List.any_reverse, List.any_cons, List.any_cons, hreturns]

end Text

/-! ### Declarations -/

namespace Registration

/-- There is no white space around a declaration. -/
theorem trim_declaration (name : String) :
    Text.trim (declaration name).toList = (declaration name).toList := by
  have hchars : (declaration name).toList = 'p' :: ("ub mod ".toList ++ name.toList ++ [';']) := by
    rw [declaration, String.toList_append, String.toList_append]
    rfl
  rw [hchars, Text.trim_cons_concat (by decide) (by decide)]

/-- A declaration is a line that declares its module. -/
theorem declares_declaration (name : String) : declares name (declaration name).toList = true := by
  rw [declares, trim_declaration, String.ofList_toList, beq_self_eq_true, Bool.true_or]

/-- A declaration is a line for no other module. -/
theorem declares_declaration_of_ne {name other : String} (h : name ≠ other) :
    declares name (declaration other).toList = false := by
  have hlong : declaration other ≠ declaration name := by
    intro heq
    rw [declaration, declaration, String.append_left_inj, String.append_right_inj] at heq
    exact h heq.symm
  have hshort : declaration other ≠ "mod " ++ name ++ ";" := by
    intro heq
    have hchars := congrArg String.toList heq
    rw [declaration, String.toList_append, String.toList_append, String.toList_append,
      String.toList_append] at hchars
    cases hchars
  rw [declares, trim_declaration, String.ofList_toList, beq_false_of_ne hlong,
    beq_false_of_ne hshort, Bool.or_false]

theorem declares_nil (name : String) : declares name [] = false := by
  have hne : ∀ line : String, line.toList ≠ [] → (String.ofList [] == line) = false := by
    intro line hline
    rw [beq_eq_false_iff_ne]
    rintro rfl
    exact hline rfl
  rw [declares, Text.trim, Text.trimStart, List.dropWhile_nil, Text.trimEnd]
  change (String.ofList [] == _ || String.ofList [] == _) = false
  rw [hne _ (by simp [declaration, String.toList_append]), hne _ (by simp [String.toList_append])]
  rfl

/-- Whether a text declares a module, piece by piece. -/
theorem any_lines_declares (name : String) (cs : List Char) :
    (Text.lines cs).any (declares name) = (Text.splitAtChar '\n' cs).any (declares name) :=
  Text.any_lines (declares_nil name)
    (fun line => by rw [declares, declares, Text.trim_withoutReturn]) cs

/-- A text whose last line is ended. -/
def ended (text : String) : String :=
  if text.isEmpty || text.toList.getLast? == some '\n' then text else text ++ "\n"

/-- To end a text takes one break at most. -/
theorem exists_ending (text : String) :
    ∃ ending, (ending = "" ∨ ending = "\n") ∧ ended text = text ++ ending := by
  rw [ended]
  split
  · exact ⟨"", Or.inl rfl, String.append_empty.symm⟩
  · exact ⟨"\n", Or.inr rfl, rfl⟩

theorem ended_append_newline (text : String) : ended (text ++ "\n") = text ++ "\n" := by
  rw [ended, if_pos]
  rw [String.toList_append, List.getLast?_append_of_ne_nil _ (by decide)]
  exact Bool.or_true _

/-- **What declaring a module does** to the text of an index. -/
theorem declareModule_eq (text name : String) : declareModule text name =
    if (Text.lines text.toList).any (declares name) then (.alreadyPresent, text)
    else (.inserted, ended text ++ (declaration name ++ "\n")) := by
  rw [← String.append_assoc]
  rfl

/-- Ending a text declares nothing. -/
theorem exists_pieces_ended (text : String) :
    ended text = "" ∨ ∃ before, ended text = before ++ "\n" ∧ ∀ name,
      (Text.splitAtChar '\n' before.toList).any (declares name) =
        (Text.splitAtChar '\n' text.toList).any (declares name) := by
  rw [ended]
  split
  · rename_i hended
    rcases (Bool.or_eq_true _ _).mp hended with hempty | hlast
    · exact Or.inl (String.isEmpty_iff.mp hempty)
    · obtain ⟨before, hbefore⟩ := List.getLast?_eq_some_iff.mp (beq_iff_eq.mp hlast)
      have htext : text = String.ofList before ++ "\n" := String.toList_inj.mp (by
        rw [hbefore, String.toList_append, String.toList_ofList]
        rfl)
      refine Or.inr ⟨String.ofList before, htext, fun name => ?_⟩
      have hpieces : Text.splitAtChar '\n' (before ++ ['\n']) =
          Text.splitAtChar '\n' before ++ [[]] := Text.splitBy_append_sep (by decide) before []
      rw [hbefore, hpieces, String.toList_ofList, List.any_append, List.any_cons, List.any_nil,
        declares_nil, Bool.or_false, Bool.or_false]
  · exact Or.inr ⟨text, rfl, fun name => rfl⟩

/-- A line that is added declares its own module, and leaves the others as they were. -/
theorem any_declares_append {line : String} (hline : '\n' ∉ line.toList) (text name : String) :
    (Text.lines (ended text ++ (line ++ "\n")).toList).any (declares name) =
      ((Text.lines text.toList).any (declares name) || declares name line.toList) := by
  have hlast : Text.splitAtChar '\n' (line.toList ++ ['\n']) = [line.toList, []] :=
    Text.splitAtChar_append_cons hline []
  have hpiece : [line.toList, []].any (declares name) = declares name line.toList := by
    rw [List.any_cons, List.any_cons, List.any_nil, declares_nil, Bool.or_false, Bool.or_false]
  rw [any_lines_declares, any_lines_declares, String.toList_append, String.toList_append]
  change (Text.splitAtChar '\n' (_ ++ (line.toList ++ ['\n']))).any _ = _
  rcases exists_pieces_ended text with hnil | ⟨before, hended, hpieces⟩
  · have htext : text = "" := by
      obtain ⟨ending, -, hending⟩ := exists_ending text
      have hchars := congrArg String.toList (hending.symm.trans hnil)
      rw [String.toList_append] at hchars
      exact String.toList_inj.mp (List.append_eq_nil_iff.mp hchars).1
    subst htext
    rw [hnil]
    change (Text.splitAtChar '\n' (line.toList ++ ['\n'])).any _ = _
    rw [hlast, hpiece]
    change _ = ((Text.splitAtChar '\n' []).any _ || _)
    rw [show Text.splitAtChar '\n' [] = [[]] from rfl, List.any_cons, declares_nil, List.any_nil,
      Bool.or_false, Bool.false_or]
  · have hsplit : Text.splitAtChar '\n' (before.toList ++ '\n' :: (line.toList ++ ['\n'])) =
        Text.splitAtChar '\n' before.toList ++ [line.toList, []] := by
      rw [← hlast]
      exact Text.splitBy_append_sep (by decide) _ _
    rw [hended, String.toList_append, List.append_assoc]
    change (Text.splitAtChar '\n' (before.toList ++ '\n' :: (line.toList ++ ['\n']))).any _ = _
    rw [hsplit, List.any_append, hpieces, hpiece]

/-- A module that is declared stays so. -/
theorem declared_declareModule {text name other : String}
    (h : (Text.lines text.toList).any (declares name) = true) (hother : '\n' ∉ other.toList) :
    (Text.lines (declareModule text other).2.toList).any (declares name) = true := by
  rw [declareModule_eq]
  split
  · exact h
  · rw [any_declares_append, h, Bool.true_or]
    rw [declaration]
    simp [String.toList_append, hother]

/-- **A module is declared after its declaration.** -/
theorem declared_declareModule_self (text : String) {name : String} (hname : '\n' ∉ name.toList) :
    (Text.lines (declareModule text name).2.toList).any (declares name) = true := by
  rw [declareModule_eq]
  split
  · assumption
  · rw [any_declares_append, declares_declaration, Bool.or_true]
    rw [declaration]
    simp [String.toList_append, hname]

/-! ### Chains of declarations -/

/-- The lines that declare some modules. -/
def declarations (names : List String) : String :=
  String.join (names.map fun name => declaration name ++ "\n")

/-- The last of several declarations is a line of its own. -/
theorem declarations_concat (names : List String) (name : String) :
    declarations (names ++ [name]) = declarations names ++ (declaration name ++ "\n") := by
  rw [declarations, declarations, List.map_append, String.join_append]
  simp [String.join_cons]

/-- The last line of a text is ended, if it is one of these. -/
theorem ended_append_declarations {names : List String} (h : names ≠ []) (text : String) :
    ended (text ++ declarations names) = text ++ declarations names := by
  rcases List.eq_nil_or_concat names with rfl | ⟨init, last, rfl⟩
  · exact absurd rfl h
  · rw [List.concat_eq_append, declarations_concat, ← String.append_assoc,
      ← String.append_assoc, ended_append_newline]

/-- **What a chain of declarations adds** to a text is an end for its last line, and lines that
declare modules. -/
theorem exists_declarations {text after : String}
    (h : Relation.ReflTransGen (fun before after => ∃ name, after = (declareModule before name).2)
      text after) :
    after = text ∨ ∃ names, names ≠ [] ∧ after = ended text ++ declarations names := by
  induction h with
  | refl => exact Or.inl rfl
  | @tail before after _ hstep ih =>
      obtain ⟨name, rfl⟩ := hstep
      rw [declareModule_eq]
      split
      · exact ih
      · right
        rcases ih with rfl | ⟨names, hnames, rfl⟩
        · exact ⟨[name], List.cons_ne_nil _ _, by simp [declarations, String.join_cons]⟩
        · refine ⟨names ++ [name], by simp, ?_⟩
          rw [ended_append_declarations hnames, declarations_concat, String.append_assoc]

end Registration

end ServiceGen
