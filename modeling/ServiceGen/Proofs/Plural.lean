import ServiceGen.Proofs.Words
import ServiceGen.Text.Plural

/-!
# Plurals, in Theory

What the plural of a name can be. `pluralForm_plural` is the inversion of `plural`: the name
itself, the name with an ending, or the name with its last word exchanged for an irregular
plural. On names in small letters these are the cases of `plural_cases`, and it follows that a
plural with the letters of its name, one after the other, is that name
(`PluralCase.eq_of_filter_eq`).
-/

namespace ServiceGen.Text

/-- A text in small ASCII letters, digits and separators. -/
def IsPlain (cs : List Char) : Prop :=
  ∀ c ∈ cs, Letter.isAscii c = true ∧ c.isUpper = false

/-- The end of a plain text is plain. -/
theorem IsPlain.of_append_right {as bs : List Char} (h : IsPlain (as ++ bs)) : IsPlain bs :=
  fun c hc => h c (List.mem_append_right as hc)

/-- A plain text is its own lower-case form. -/
theorem IsPlain.map_toLower {cs : List Char} (h : IsPlain cs) : cs.map Char.toLower = cs :=
  Letter.map_toLower_eq_self fun c hc => (h c hc).2

/-- A plain text is its own lower-case form, also by the rules for any script. -/
theorem IsPlain.lowerText_eq {cs : List Char} (h : IsPlain cs) :
    Letter.lowerText cs = cs := by
  rw [Letter.lowerText_of_ascii fun c hc => (h c hc).1, h.map_toLower]

/-! ### The last word -/

/-- The cut before the last word loses nothing. -/
theorem cutAtSeparator_append (cs : List Char) :
    (cutAtSeparator cs).1 ++ (cutAtSeparator cs).2 = cs := by
  obtain ⟨before, hbefore⟩ := List.takeWhile_prefix
    (fun c => !(c == '_' || c == '-' || c == ' ')) (l := cs.reverse)
  have hcs : cs = before.reverse ++ (cs.reverse.takeWhile
      fun c => !(c == '_' || c == '-' || c == ' ')).reverse := by
    rw [← List.reverse_append, hbefore, List.reverse_reverse]
  rw [cutAtSeparator]
  generalize (cs.reverse.takeWhile
    fun c => !(c == '_' || c == '-' || c == ' ')).reverse = tail at hcs ⊢
  subst hcs
  simp

/-- The stem and the last word make up the name. -/
theorem splitLastWord_append (cs : List Char) :
    (splitLastWord cs).1 ++ (splitLastWord cs).2 = cs := by
  rw [splitLastWord, List.append_assoc, List.take_append_drop, cutAtSeparator_append]

/-- A replacement for a word in small letters stays as it is. -/
theorem withInitialOf_of_isPlain {word : List Char} (h : IsPlain word)
    (replacement : List Char) : withInitialOf word replacement = replacement := by
  cases word with
  | nil => rfl
  | cons c rest =>
      obtain ⟨hascii, hup⟩ := h c List.mem_cons_self
      rw [withInitialOf, Letter.isUpper, if_pos hascii, hup]
      rfl

/-! ### Endings -/

/-- The ending of joined texts, read backwards. -/
theorem endsWith_append (ending : String) (cs more : List Char) :
    endsWith ending (cs ++ more) =
      ending.toList.reverse.isPrefixOf (more.reverse ++ cs.reverse) := by
  rw [endsWith, List.isSuffixOf, List.reverse_append]

/-- A text with an ending is something and that ending. -/
theorem exists_of_endsWith {ending : String} {cs : List Char} (h : endsWith ending cs = true) :
    ∃ front, cs = front ++ ending.toList := by
  obtain ⟨front, hfront⟩ := List.isSuffixOf_iff_suffix.mp h
  exact ⟨front, hfront.symm⟩

/-! ### Cases of the plural -/

/-- How the plural `many` of a plain name `cs` may have come about. -/
inductive PluralCase (cs : List Char) : List Char → Prop
  /-- The name is its own plural. -/
  | same : PluralCase cs cs
  /-- The name takes `s`. -/
  | s : PluralCase cs (cs ++ ['s'])
  /-- The name takes `es`. -/
  | es : PluralCase cs (cs ++ ['e', 's'])
  /-- The name changes `y` into `ies`. -/
  | ies (stem : List Char) (h : cs = stem ++ ['y']) : PluralCase cs (stem ++ ['i', 'e', 's'])
  /-- The last word has a plural of its own. -/
  | irregular (stem : List Char) (pair : String × String) (hpair : pair ∈ irregularPlurals)
      (h : cs = stem ++ pair.1.toList) : PluralCase cs (stem ++ pair.2.toList)

/-- The plural of a name with the given stem and last word, of which the lower-case form is
given. -/
def pluralFrom (cs stem last lower : List Char) : List Char :=
  if uncountableWords.contains (String.ofList lower)
      || pluralsInUs.contains (String.ofList lower) then cs
  else match irregularPlurals.find? fun (one, many) =>
      String.ofList lower == one || String.ofList lower == many with
    | some (one, many) =>
      if String.ofList lower == one then stem ++ withInitialOf last many.toList else cs
    | none => pluralByEnding cs lower

/-- The plural of a text is that of its last word. -/
theorem plural_eq (cs : List Char) :
    plural cs = pluralFrom cs (splitLastWord cs).1 (splitLastWord cs).2
      (Letter.lowerText (splitLastWord cs).2) := by
  rw [plural]
  simp only [String.toList_ofList]
  rfl

/-- How the plural of a name may have come about, by the lower-case form of its last word. -/
inductive PluralForm (cs stem last lower : List Char) : List Char → Prop
  /-- The name is its own plural. -/
  | same : PluralForm cs stem last lower cs
  /-- The last word has a plural of its own. -/
  | irregular (pair : String × String) (hpair : pair ∈ irregularPlurals)
      (h : lower = pair.1.toList) :
      PluralForm cs stem last lower (stem ++ withInitialOf last pair.2.toList)
  /-- The name takes `es`. -/
  | es : PluralForm cs stem last lower (cs ++ ['e', 's'])
  /-- The name changes `y` into `ies`. -/
  | ies (h : endsWith "y" lower = true) :
      PluralForm cs stem last lower (cs.dropLast ++ ['i', 'e', 's'])
  /-- The name takes `s`. -/
  | s (h : endsWith "s" lower = false) : PluralForm cs stem last lower (cs ++ ['s'])

/-- A plural is formed by one of the rules. -/
theorem pluralForm_pluralFrom (cs stem last lower : List Char) :
    PluralForm cs stem last lower (pluralFrom cs stem last lower) := by
  rw [pluralFrom]
  split
  · exact .same
  · split
    · rename_i one many hfind
      split
      · rename_i hone
        refine .irregular (one, many) (List.mem_of_find?_eq_some hfind) ?_
        rw [← eq_of_beq hone, String.toList_ofList]
      · exact .same
    · rw [pluralByEnding]
      split
      · exact .es
      · split
        · exact .same
        · rename_i hs
          split
          · rename_i hy
            exact .ies (Bool.and_eq_true_iff.mp hy).1
          · exact .s (by simpa using hs)

/-- **The forms of a plural.** The plural of a name keeps it, adds an ending to it or exchanges its
last word. -/
theorem pluralForm_plural (cs : List Char) :
    PluralForm cs (splitLastWord cs).1 (splitLastWord cs).2
      (Letter.lowerText (splitLastWord cs).2) (plural cs) := by
  rw [plural_eq]
  exact pluralForm_pluralFrom _ _ _ _

/-- **The cases of a plural.** In the plural of a plain name the ending or the irregular plural
stands in the place of what was there. -/
theorem plural_cases {cs : List Char} (h : IsPlain cs) : PluralCase cs (plural cs) := by
  have hcs := splitLastWord_append cs
  have hform := pluralForm_plural cs
  generalize splitLastWord cs = cut at hcs hform
  obtain ⟨stem, last⟩ := cut
  dsimp only at hcs hform
  subst hcs
  have hlast : IsPlain last := h.of_append_right
  rw [hlast.lowerText_eq] at hform
  generalize plural (stem ++ last) = many at hform
  cases hform with
  | same => exact .same
  | irregular pair hpair hone =>
      rw [withInitialOf_of_isPlain hlast]
      exact .irregular stem pair hpair (by rw [hone])
  | es => exact .es
  | ies hy =>
      obtain ⟨front, rfl⟩ := exists_of_endsWith hy
      have hdrop : (stem ++ (front ++ "y".toList)).dropLast = stem ++ front := by
        rw [← List.append_assoc]
        exact List.dropLast_concat
      rw [hdrop]
      exact .ies (stem ++ front) (List.append_assoc stem front _).symm
  | s _ => exact .s

/-- A plural has characters of its name and small letters in it. -/
theorem PluralCase.of_mem {cs many : List Char} (hcase : PluralCase cs many) {c : Char}
    (hc : c ∈ many) : c ∈ cs ∨ c.isLower = true := by
  have hextend : ∀ {stem rest ending : List Char}, cs = stem ++ rest →
      ending.all Char.isLower = true → c ∈ stem ++ ending → c ∈ cs ∨ c.isLower = true := by
    intro stem rest ending hcs hending hmem
    rcases List.mem_append.mp hmem with hmem | hmem
    · exact Or.inl (hcs ▸ List.mem_append_left rest hmem)
    · exact Or.inr (List.all_eq_true.mp hending c hmem)
  have hirregular : ∀ pair ∈ irregularPlurals, pair.2.toList.all Char.isLower = true := by
    decide
  cases hcase with
  | same => exact Or.inl hc
  | s => exact hextend (List.append_nil cs).symm (by decide) hc
  | es => exact hextend (List.append_nil cs).symm (by decide) hc
  | ies stem hcs => exact hextend hcs (by decide) hc
  | irregular stem pair hpair hcs => exact hextend hcs (hirregular pair hpair) hc

/-- A plural of a plain name is plain. -/
theorem PluralCase.isPlain {cs many : List Char} (hcase : PluralCase cs many)
    (h : IsPlain cs) : IsPlain many := by
  intro c hc
  rcases hcase.of_mem hc with hc | hlow
  · exact h c hc
  · have halnum : c.isAlphanum = true := by simp [Char.isAlphanum, Char.isAlpha, hlow]
    have hup : c.isUpper = false := by
      simpa using Char.not_isUpper_of_isLower hlow
    exact ⟨Letter.isAscii_of_isAlphanum halnum, hup⟩

/-- A plural with the letters of its name is that name: an ending adds letters, and no
irregular plural is spelled like its singular. -/
theorem PluralCase.eq_of_filter_eq {cs many : List Char} (hcase : PluralCase cs many)
    (h : many.filter Letter.isWord = cs.filter Letter.isWord) : many = cs := by
  have hirregular : ∀ pair ∈ irregularPlurals,
      pair.2.toList.filter Letter.isWord ≠ pair.1.toList.filter Letter.isWord := by
    decide
  have hlength := congrArg List.length h
  cases hcase with
  | same => rfl
  | s =>
      have hs : Letter.isWord 's' = true := by decide
      simp [hs] at hlength
  | es =>
      have he : Letter.isWord 'e' = true := by decide
      have hs : Letter.isWord 's' = true := by decide
      simp [he, hs] at hlength
  | ies stem hcs =>
      have hi : Letter.isWord 'i' = true := by decide
      have he : Letter.isWord 'e' = true := by decide
      have hs : Letter.isWord 's' = true := by decide
      have hy : Letter.isWord 'y' = true := by decide
      simp [hcs, hi, he, hs, hy] at hlength
  | irregular stem pair hpair hcs =>
      rw [hcs, List.filter_append, List.filter_append] at h
      exact absurd (List.append_cancel_left h) (hirregular pair hpair)

end ServiceGen.Text
