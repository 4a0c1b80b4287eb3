import ServiceGen.Proofs.Identifiers
import ServiceGen.Proofs.PascalCase

/-!
# Legal Names of Fields

The identifier of a wire name is its snake-case form after four repairs: a word for a name without
words, an underscore before a leading digit, one behind a word that cannot be raw, and the mark
before one that can. No repair undoes another: a form without underscores at its ends
(`IsForm`) becomes no lone underscore when one is put before it, and no reserved word has an
underscore in it, so the second underscore leads to none either. What is left to be said is which
characters there are, and these are small letters, digits and underscores where the name is ASCII
(`isFieldLetter_of_mem_identifierForm`).

`isFieldName_fieldIdentifier` is what this comes to: **the identifier of an ASCII name is legal**,
and the form can be read back from it.
-/

namespace ServiceGen

/-! ### Legal names -/

/-- Whether a character may stand in the name of a field. -/
def isFieldLetter (c : Char) : Bool :=
  c.isLower || c.isDigit || c == '_'

/-- Whether a field may have a name without the raw mark: a small letter or an underscore, and then
small letters, digits and underscores, but neither a lone underscore nor a reserved word. -/
def isPlainFieldName (ident : String) : Bool :=
  match ident.toList with
  | [] => false
  | first :: rest => (first.isLower || first == '_') && rest.all isFieldLetter && ident != "_"
      && !isReservedWord ident

/-- Whether a field may have a name: a plain one, or a reserved word behind the raw mark. -/
def isFieldName (ident : String) : Bool :=
  isPlainFieldName ident || rawableWords.any fun word => ident == "r#" ++ word

/-- A plain name from what there is to be checked of it. -/
theorem isPlainFieldName_of_letters {cs : List Char} (hne : cs ≠ [])
    (hletters : ∀ c ∈ cs, isFieldLetter c = true)
    (hfirst : ∀ c, cs.head? = some c → c.isDigit = false) (hlone : cs ≠ ['_'])
    (hword : isReservedWord (String.ofList cs) = false) :
    isPlainFieldName (String.ofList cs) = true := by
  have hlone : String.ofList cs ≠ "_" := fun heq => hlone (by
    rw [← String.toList_ofList (l := cs), heq]
    rfl)
  obtain ⟨first, rest, rfl⟩ := List.exists_cons_of_ne_nil hne
  obtain ⟨hhead, hrest⟩ := List.forall_mem_cons.mp hletters
  have hfirst : (first.isLower || first == '_') = true := by
    rw [isFieldLetter, hfirst first rfl, Bool.or_false] at hhead
    exact hhead
  rw [isPlainFieldName, String.toList_ofList]
  simp only [hfirst, List.all_eq_true.mpr hrest, bne_iff_ne.mpr hlone, hword, Bool.not_false,
    Bool.and_self]

/-- No reserved word has an underscore in it. -/
theorem isReservedWord_eq_false {name : String} (h : '_' ∈ name.toList) :
    isReservedWord name = false := by
  have hpath : ∀ word ∈ pathWords, '_' ∉ word.toList := by decide
  rw [isReservedWord, Bool.or_eq_false_iff, List.contains_eq_mem, List.contains_eq_mem,
    decide_eq_false_iff_not, decide_eq_false_iff_not]
  exact ⟨not_mem_rawableWords h, fun hmem => hpath name hmem h⟩

/-! ### Letters of forms -/

/-- Snake case keeps ASCII names among the letters of fields. -/
theorem Text.isFieldLetter_of_mem_snake {cs : List Char}
    (h : ∀ c ∈ cs, Letter.isAscii c = true) {c : Char} (hc : c ∈ snake cs) :
    isFieldLetter c = true := by
  rcases mem_join hc with hc | ⟨piece, hpiece, hc⟩
  · rw [List.mem_singleton.mp hc]
    rfl
  · obtain ⟨word, hword, rfl⟩ := List.mem_map.mp hpiece
    rcases (smallWord_lowerWord h hword).small c hc with hlower | hdigit
    · simp [isFieldLetter, hlower]
    · simp [isFieldLetter, hdigit]

/-- So does the form of identifiers. -/
theorem isFieldLetter_of_mem_identifierForm {name : String}
    (h : ∀ c ∈ name.toList, Text.Letter.isAscii c = true) {c : Char}
    (hc : c ∈ identifierForm name) : isFieldLetter c = true := by
  rw [identifierForm] at hc
  split at hc
  · have hall : "field".toList.all isFieldLetter = true := by decide
    exact List.all_eq_true.mp hall c hc
  · exact Text.isFieldLetter_of_mem_snake h hc

/-! ### Repairs -/

namespace IsForm

variable {form : List Char}

/-- Behind the first repair a form does not begin with a digit. -/
theorem isDigit_eq_false_of_head?_guardDigit {c : Char}
    (hc : (guardDigit form).head? = some c) : c.isDigit = false := by
  cases form with
  | nil => cases hc
  | cons d rest =>
      rw [guardDigit] at hc
      split at hc
      · rw [← Option.some.inj hc]
        rfl
      · rename_i hdigit
        rw [← Option.some.inj hc]
        simpa using hdigit

/-- The guard against digits leaves no form empty. -/
theorem guardDigit_ne_nil (h : IsForm form) : guardDigit form ≠ [] := by
  rcases guardDigit_eq form with heq | heq
  · rw [heq]
    exact h.ne_nil
  · rw [heq]
    exact List.cons_ne_nil _ _

/-- The first repair leaves no lone underscore. -/
theorem guardDigit_ne (h : IsForm form) : guardDigit form ≠ ['_'] := by
  intro heq
  rcases guardDigit_eq form with hsame | hmore
  · rw [hsame] at heq
    exact h.first (by rw [heq]; rfl)
  · rw [hmore] at heq
    exact h.ne_nil (List.cons.inj heq).2

/-- **What the repairs make of a form is legal**, if its letters are. -/
theorem isFieldName_repairIdentifier (h : IsForm form)
    (hletters : ∀ c ∈ form, isFieldLetter c = true) :
    isFieldName (repairIdentifier form) = true := by
  have hne := h.guardDigit_ne_nil
  have hguard : ∀ c ∈ guardDigit form, isFieldLetter c = true := by
    intro c hc
    rcases of_mem_guardDigit hc with rfl | hc
    · rfl
    · exact hletters c hc
  rw [repairIdentifier_eq, isFieldName, Bool.or_eq_true]
  split
  · -- The word cannot be raw, and has an underscore behind it.
    left
    have hword : String.ofList (guardDigit form) ++ "_" =
        String.ofList (guardDigit form ++ ['_']) := by
      rw [← String.toList_inj, String.toList_append]
      simp
    rw [hword]
    refine isPlainFieldName_of_letters (by simp) ?_ ?_ (by simpa using hne) ?_
    · exact List.forall_mem_append.mpr ⟨hguard, by simp [isFieldLetter]⟩
    · intro c hc
      rw [List.head?_append_of_ne_nil _ hne] at hc
      exact isDigit_eq_false_of_head?_guardDigit hc
    · exact isReservedWord_eq_false (by simp)
  · rename_i hpath
    split
    · rename_i hraw
      exact Or.inr (List.any_eq_true.mpr ⟨_, List.contains_iff_mem.mp hraw, by simp⟩)
    · rename_i hraw
      refine Or.inl (isPlainFieldName_of_letters hne hguard
        (fun _ => isDigit_eq_false_of_head?_guardDigit) h.guardDigit_ne ?_)
      rw [isReservedWord, Bool.or_eq_false_iff]
      exact ⟨by simpa using hraw, by simpa using hpath⟩

end IsForm

/-- **The identifier of an ASCII name is legal**, and the snake-case form that it was made from can
be read back from it. -/
theorem isFieldName_fieldIdentifier {name : String}
    (h : ∀ c ∈ name.toList, Text.Letter.isAscii c = true) :
    isFieldName (fieldIdentifier name) = true ∧
      formOf (fieldIdentifier name) = identifierForm name := by
  have hform := isForm_identifierForm name
  rw [fieldIdentifier_eq]
  exact ⟨hform.isFieldName_repairIdentifier fun _ => isFieldLetter_of_mem_identifierForm h,
    hform.formOf_repairIdentifier⟩

/-- A name with digits at its front, an acronym, and a word that is reserved when it stands alone. -/
theorem isFieldName_fieldIdentifier_twoFactor :
    (∀ c ∈ "2FA[self]".toList, Text.Letter.isAscii c = true) ∧
      fieldIdentifier "2FA[self]" = "_2fa_self" ∧ isFieldName "_2fa_self" = true ∧
      formOf "_2fa_self" = identifierForm "2FA[self]" := by
  have hascii : ∀ c ∈ "2FA[self]".toList, Text.Letter.isAscii c = true :=
    List.all_eq_true.mp (by decide)
  have hident : fieldIdentifier "2FA[self]" = "_2fa_self" := by decide +kernel
  exact ⟨hascii, hident, hident ▸ isFieldName_fieldIdentifier hascii⟩

example : (["Self", "Type", "--"].map fieldIdentifier) = ["self_", "r#type", "field"] := by
  decide +kernel

end ServiceGen
