import ServiceGen.Proofs.Stems
import ServiceGen.Text.Identifier

/-!
# Identifiers, in Theory

The identifier of a wire name is its snake-case form, repaired where that is no legal one. The
repairs can be told apart from the form: no form begins or ends with an underscore, and none has
the raw mark in it. So nothing but the form decides the identifier, and two names have the same
one exactly if they have the same form (`fieldIdentifier_eq_iff`).

An identifier carries the raw mark exactly if it is a word that needs it (`WellMarked`). Then the
mark can be left out without making two identifiers equal (`WellMarked.eq_of_plainIdentifier`).
-/

namespace ServiceGen

/-! ### Raw marks -/

/-- A text that does not begin with the raw mark is left as it is. -/
theorem dropRawMarks_of_unmarked {cs : List Char} (h : ¬ rawMark <+: cs) :
    dropRawMarks cs = cs := by
  fun_cases dropRawMarks cs with
  | case1 rest => exact absurd ⟨rest, rfl⟩ h
  | case2 => rfl

/-- A name without the mark stays as it is. -/
theorem plainIdentifier_of_unmarked {name : String} (h : ¬ rawMark <+: name.toList) :
    plainIdentifier name = name := by
  rw [plainIdentifier, dropRawMarks_of_unmarked h, String.ofList_toList]

/-- A mark in front is dropped. -/
theorem plainIdentifier_raw (name : String) :
    plainIdentifier ("r#" ++ name) = plainIdentifier name := by
  rw [plainIdentifier, plainIdentifier, String.toList_append]
  rfl

/-- A text without a number sign does not begin with the raw mark. -/
theorem unmarked_of_not_mem {cs : List Char} (h : '#' ∉ cs) : ¬ rawMark <+: cs := by
  rintro ⟨rest, rfl⟩
  exact h (List.mem_append_left _ (by decide))

/-- The raw mark does not come about where an underscore is put behind a text. -/
theorem unmarked_append {cs : List Char} (h : ¬ rawMark <+: cs) (rest : List Char) :
    ¬ rawMark <+: cs ++ '_' :: rest := by
  match cs with
  | [] =>
      rintro ⟨tail, htail⟩
      cases htail
  | [c] =>
      rintro ⟨tail, htail⟩
      cases htail
  | c :: d :: more =>
      rintro ⟨tail, htail⟩
      have hboth : 'r' = c ∧ '#' = d ∧ tail = more ++ '_' :: rest := by
        simpa [rawMark] using htail
      obtain ⟨rfl, rfl, -⟩ := hboth
      exact h ⟨more, rfl⟩

/-- What is checked of each reserved word that can be marked: it consists of small letters. -/
theorem rawableWords_check :
    (rawableWords.all fun word => !word.toList.isEmpty && word.toList.all Char.isLower) = true := by
  decide

/-- The words that can be marked have small letters only. -/
theorem isLower_of_mem_rawableWords {word : String} (h : word ∈ rawableWords) {c : Char}
    (hc : c ∈ word.toList) : c.isLower = true := by
  have hword := List.all_eq_true.mp rawableWords_check word h
  rw [Bool.and_eq_true] at hword
  exact List.all_eq_true.mp hword.2 c hc

/-- A name with an underscore in it is no reserved word. -/
theorem not_mem_rawableWords {name : String} (h : '_' ∈ name.toList) : name ∉ rawableWords :=
  fun hmem => absurd (isLower_of_mem_rawableWords hmem h) (by decide)

/-- A word that was marked is itself without the mark. -/
theorem plainIdentifier_rawable {word : String} (h : word ∈ rawableWords) :
    plainIdentifier ("r#" ++ word) = word := by
  rw [plainIdentifier_raw]
  refine plainIdentifier_of_unmarked (unmarked_of_not_mem fun hmem => ?_)
  exact absurd (isLower_of_mem_rawableWords h hmem) (by decide)

/-- An identifier that carries the raw mark exactly if it is a word that needs it. -/
inductive WellMarked : String → Prop
  /-- A reserved word behind the mark. -/
  | raw {word : String} (hword : word ∈ rawableWords) : WellMarked ("r#" ++ word)
  /-- Any other word without the mark. -/
  | plain {name : String} (hmark : ¬ rawMark <+: name.toList) (hword : name ∉ rawableWords) :
      WellMarked name

namespace WellMarked

/-- What is left of an identifier without its mark has none. -/
theorem unmarked_plainIdentifier {name : String} (h : WellMarked name) :
    ¬ rawMark <+: (plainIdentifier name).toList := by
  cases h with
  | @raw word hword =>
      rw [plainIdentifier_rawable hword]
      exact unmarked_of_not_mem fun hmem =>
        absurd (isLower_of_mem_rawableWords hword hmem) (by decide)
  | plain hmark _ => rwa [plainIdentifier_of_unmarked hmark]

/-- **The mark tells nothing apart**: identifiers that are the same without it are the same. -/
theorem eq_of_plainIdentifier {a b : String} (ha : WellMarked a) (hb : WellMarked b)
    (h : plainIdentifier a = plainIdentifier b) : a = b := by
  cases ha with
  | raw hword =>
      rw [plainIdentifier_rawable hword] at h
      subst h
      cases hb with
      | raw hother => rw [plainIdentifier_rawable hother]
      | plain hmark hplain =>
          rw [plainIdentifier_of_unmarked hmark] at hword
          exact absurd hword hplain
  | plain hmark hplain =>
      rw [plainIdentifier_of_unmarked hmark] at h
      subst h
      cases hb with
      | raw hword =>
          rw [plainIdentifier_rawable hword] at hplain
          exact absurd hword hplain
      | plain hother _ => rw [plainIdentifier_of_unmarked hother]

end WellMarked

/-! ### Snake-case forms -/

namespace Text

/-- The lower-case form of a word has no underscore in it. -/
theorem underscore_not_mem_lowerWord {cs word : List Char} (h : word ∈ nameWords cs) :
    '_' ∉ lowerWord word := by
  intro hmem
  rcases mem_lowerWord hmem with hsigma | ⟨d, hd, hform⟩
  · exact absurd hsigma (by decide)
  · have halnum := Letter.isAlphanum_of_mem_toLower (of_mem_nameWords h hd).2 hform (by decide)
    exact absurd halnum (by decide)

/-- A joined text begins as its first piece does, and ends as its last piece does. -/
theorem head?_and_getLast?_join (sep : List Char) {pieces : List (List Char)}
    (h : ∀ piece ∈ pieces, piece ≠ []) :
    (join sep pieces).head? = pieces.head?.bind List.head? ∧
      (join sep pieces).getLast? = pieces.getLast?.bind List.getLast? := by
  induction pieces with
  | nil => exact ⟨rfl, rfl⟩
  | cons piece rest ih =>
      have hpiece := h piece List.mem_cons_self
      cases rest with
      | nil => exact ⟨rfl, rfl⟩
      | cons next rest =>
          obtain ⟨-, hlast⟩ := ih fun q hq => h q (List.mem_cons_of_mem piece hq)
          have hjoin : join sep (next :: rest) ≠ [] := by
            intro hnil
            cases rest <;> simp [join, h next (by simp)] at hnil
          constructor
          · rw [join_cons_cons, List.append_assoc, List.head?_append_of_ne_nil _ hpiece]
            rfl
          · rw [join_cons_cons, List.getLast?_append_of_ne_nil _ hjoin, hlast,
              List.getLast?_cons_cons]

/-- **No snake-case form begins or ends with an underscore.** -/
theorem underscore_not_at_ends (cs : List Char) :
    (snake cs).head? ≠ some '_' ∧ (snake cs).getLast? ≠ some '_' := by
  have hpieces : ∀ piece ∈ (nameWords cs).map lowerWord, piece ≠ [] ∧ '_' ∉ piece := by
    intro piece hpiece
    obtain ⟨word, hword, rfl⟩ := List.mem_map.mp hpiece
    exact ⟨lowerWord_ne_nil (ne_nil_of_mem_nameWords hword), underscore_not_mem_lowerWord hword⟩
  obtain ⟨hhead, hlast⟩ := head?_and_getLast?_join ['_'] fun p hp => (hpieces p hp).1
  constructor
  · intro h
    rw [snake, hhead, Option.bind_eq_some_iff] at h
    obtain ⟨piece, hpiece, hmem⟩ := h
    exact (hpieces piece (List.mem_of_head? hpiece)).2 (List.mem_of_head? hmem)
  · intro h
    rw [snake, hlast, Option.bind_eq_some_iff] at h
    obtain ⟨piece, hpiece, hmem⟩ := h
    exact (hpieces piece (List.mem_of_getLast? hpiece)).2 (List.mem_of_getLast? hmem)

end Text

/-! ### Identifiers of wire names -/

/-- The form that the identifier of a wire name is made from: its snake-case form, or the word
for a name without words. -/
def identifierForm (name : String) : List Char :=
  match Text.snake name.toList with
  | [] => "field".toList
  | form => form

/-- A form is not empty, has no number sign in it, and no underscore at its ends. -/
structure IsForm (form : List Char) : Prop where
  ne_nil : form ≠ []
  unmarked : '#' ∉ form
  first : form.head? ≠ some '_'
  last : form.getLast? ≠ some '_'

/-- **The form of a name** has letters, digits and underscores only. -/
theorem isForm_identifierForm (name : String) : IsForm (identifierForm name) := by
  rw [identifierForm]
  split
  · exact ⟨by decide, by decide, by decide, by decide⟩
  · rename_i hne
    obtain ⟨hfirst, hlast⟩ := Text.underscore_not_at_ends name.toList
    exact ⟨hne, Text.not_mem_snake (by decide) (by decide) (by decide) _, hfirst, hlast⟩

/-- The word for a name without words needs no repair. -/
theorem repairIdentifier_field : repairIdentifier "field".toList = "field" := by
  decide

/-- The identifier of a field is made from the form of its name. -/
theorem fieldIdentifier_eq (name : String) :
    fieldIdentifier name = repairIdentifier (identifierForm name) := by
  rw [fieldIdentifier, identifierForm]
  cases Text.snake name.toList with
  | nil => exact repairIdentifier_field.symm
  | cons c rest => rfl

/-- A form with an underscore before a leading digit. -/
def guardDigit : List Char → List Char
  | [] => []
  | c :: rest => if c.isDigit then '_' :: c :: rest else c :: rest

/-- A form is guarded by one underscore at most. -/
theorem guardDigit_eq (form : List Char) :
    guardDigit form = form ∨ guardDigit form = '_' :: form := by
  cases form with
  | nil => exact Or.inl rfl
  | cons c rest =>
      rw [guardDigit]
      split
      · exact Or.inr rfl
      · exact Or.inl rfl

/-- No other character is added. -/
theorem of_mem_guardDigit {form : List Char} {c : Char} (hc : c ∈ guardDigit form) :
    c = '_' ∨ c ∈ form := by
  rcases guardDigit_eq form with heq | heq
  · exact Or.inr (heq ▸ hc)
  · rwa [heq, List.mem_cons] at hc

/-- **How a form is repaired**: a leading digit gets an underscore before it, and then a word that
cannot be raw gets one behind it, and another reserved word the raw mark. -/
theorem repairIdentifier_eq (form : List Char) :
    repairIdentifier form =
      if pathWords.contains (String.ofList (guardDigit form)) then
        String.ofList (guardDigit form) ++ "_"
      else if rawableWords.contains (String.ofList (guardDigit form)) then
        "r#" ++ String.ofList (guardDigit form)
      else String.ofList (guardDigit form) := by
  cases form with
  | nil => rfl
  | cons c rest => rfl

/-- The text that an identifier was made from: without the raw mark, and without underscores at
its ends. -/
def formOf (ident : String) : List Char :=
  ((plainIdentifier ident).toList.dropWhile (· == '_')).rdropWhile (· == '_')

namespace IsForm

variable {form : List Char}

/-- No form has a mark in it. -/
theorem hash_not_mem_guardDigit (h : IsForm form) : '#' ∉ guardDigit form := fun hc =>
  (of_mem_guardDigit hc).elim (by decide) h.unmarked

/-- Underscores around a form are told from it. -/
theorem trim_guardDigit (h : IsForm form) {after : List Char} (hafter : ∀ c ∈ after, c = '_') :
    ((guardDigit form ++ after).dropWhile (· == '_')).rdropWhile (· == '_') = form := by
  have hfront : (form ++ after).dropWhile (· == '_') = form ++ after := by
    obtain ⟨c, rest, rfl⟩ := List.exists_cons_of_ne_nil h.ne_nil
    refine List.dropWhile_cons_of_neg fun hc => h.first ?_
    rw [List.head?_cons, eq_of_beq hc]
  have hback : (form ++ after).rdropWhile (· == '_') = form := by
    have hall : ∀ c ∈ after.reverse, (c == '_') = true := fun c hc =>
      beq_iff_eq.mpr (hafter c (List.mem_reverse.mp hc))
    rw [List.rdropWhile, List.reverse_append, List.dropWhile_append_of_pos hall]
    obtain ⟨rest, c, rfl⟩ := (List.eq_nil_or_concat form).resolve_left h.ne_nil
    have hc : ¬ (c == '_') = true := by
      intro hc
      refine h.last ?_
      rw [List.concat_eq_append, List.getLast?_concat, eq_of_beq hc]
    simp [hc]
  rcases guardDigit_eq form with heq | heq
  · rw [heq, hfront, hback]
  · rw [heq, List.cons_append, List.dropWhile_cons_of_pos (by decide), hfront, hback]

/-- What is left of a repaired identifier without its raw mark. -/
theorem toList_plainIdentifier_repairIdentifier (h : IsForm form) :
    (plainIdentifier (repairIdentifier form)).toList = guardDigit form ∨
      (plainIdentifier (repairIdentifier form)).toList = guardDigit form ++ ['_'] := by
  have hunmarked : ¬ rawMark <+: (String.ofList (guardDigit form)).toList := by
    rw [String.toList_ofList]
    exact unmarked_of_not_mem h.hash_not_mem_guardDigit
  rw [repairIdentifier_eq]
  split
  · right
    rw [plainIdentifier_of_unmarked, String.toList_append, String.toList_ofList]
    · rfl
    · rw [String.toList_append]
      exact unmarked_append hunmarked []
  · left
    split
    · rw [plainIdentifier_raw, plainIdentifier_of_unmarked hunmarked, String.toList_ofList]
    · rw [plainIdentifier_of_unmarked hunmarked, String.toList_ofList]

/-- **The form can be read back** from its repaired identifier. -/
theorem formOf_repairIdentifier (h : IsForm form) : formOf (repairIdentifier form) = form := by
  rw [formOf]
  rcases h.toList_plainIdentifier_repairIdentifier with heq | heq
  · rw [heq, ← List.append_nil (guardDigit form)]
    exact h.trim_guardDigit fun c hc => absurd hc List.not_mem_nil
  · rw [heq]
    exact h.trim_guardDigit fun c hc => List.mem_singleton.mp hc

/-- A repaired identifier carries the raw mark exactly if it needs it. -/
theorem wellMarked_repairIdentifier (h : IsForm form) : WellMarked (repairIdentifier form) := by
  have hunmarked := unmarked_of_not_mem h.hash_not_mem_guardDigit
  rw [repairIdentifier_eq]
  split
  · refine .plain ?_ (not_mem_rawableWords ?_)
    · rw [String.toList_append, String.toList_ofList]
      exact unmarked_append hunmarked []
    · rw [String.toList_append]
      exact List.mem_append_right _ (List.mem_singleton_self _)
  · split
    · rename_i hraw
      exact .raw (List.contains_iff_mem.mp hraw)
    · rename_i hplain
      refine .plain ?_ fun hmem => hplain (List.contains_iff_mem.mpr hmem)
      rwa [String.toList_ofList]

end IsForm

/-- **Two names have the same identifier** exactly if they have the same form. -/
theorem fieldIdentifier_eq_iff {a b : String} :
    fieldIdentifier a = fieldIdentifier b ↔ identifierForm a = identifierForm b := by
  rw [fieldIdentifier_eq, fieldIdentifier_eq]
  constructor
  · intro h
    rw [← (isForm_identifierForm a).formOf_repairIdentifier, h,
      (isForm_identifierForm b).formOf_repairIdentifier]
  · exact congrArg repairIdentifier

/-- **An identifier of a field is marked rightly**: in front, and only where a word needs it. -/
theorem wellMarked_fieldIdentifier (name : String) : WellMarked (fieldIdentifier name) := by
  rw [fieldIdentifier_eq]
  exact (isForm_identifierForm name).wellMarked_repairIdentifier

end ServiceGen
