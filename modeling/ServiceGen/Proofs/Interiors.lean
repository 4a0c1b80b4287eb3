import ServiceGen.Proofs.Occurrences
import ServiceGen.Proofs.Words
import ServiceGen.Registration

/-!
# Interiors of Registration Lists

Adding an item to a list changes what stands between its parentheses, and `Grows` says how. White
space alone is replaced by the item. Otherwise what is there stays: the item comes on a new line
behind it, with a comma of its own, and the last entry is given a comma if it has none.

The comma goes right behind the code of the last line that has any, and what follows on that line
and on the others is white space and comments (`Uncoded`). So it is never part of a comment, and
whatever an interior that grows does not change, like its parentheses or its words, it does not
matter where the comma went.

## Main results

* `endsLastEntry_endLastEntry`: what ending the last entry does to some lines.
* `grows_extendInterior`: **how an interior grows.**
-/

namespace ServiceGen

/-! ### White space and lines -/

namespace Text

/-- White space. -/
def Blank (cs : List Char) : Prop :=
  ∀ c ∈ cs, Letter.isBlank c = true

theorem Blank.append {cs more : List Char} (h : Blank cs) (hmore : Blank more) :
    Blank (cs ++ more) :=
  List.forall_mem_append.mpr ⟨h, hmore⟩

/-- Trimming takes white space away. -/
theorem exists_eq_trimEnd_append (cs : List Char) :
    ∃ blanks, cs = trimEnd cs ++ blanks ∧ Blank blanks := by
  refine ⟨(cs.reverse.takeWhile Letter.isBlank).reverse, ?_, fun c hc => ?_⟩
  · rw [trimEnd, ← List.reverse_append, List.takeWhile_append_dropWhile, List.reverse_reverse]
  · exact (List.mem_takeWhile_imp (List.mem_reverse.mp hc))

/-- What is left by trimming ends with a letter. -/
theorem exists_concat_of_trimEnd_ne_nil {cs : List Char} (h : trimEnd cs ≠ []) :
    ∃ before c, trimEnd cs = before ++ [c] ∧ Letter.isBlank c = false := by
  rcases List.eq_nil_or_concat' (trimEnd cs) with hnil | ⟨before, c, hconcat⟩
  · exact absurd hnil h
  · refine ⟨before, c, hconcat, ?_⟩
    rw [trimEnd] at hconcat
    have hhead := List.head?_dropWhile_not Letter.isBlank cs.reverse
    rw [← List.getLast?_reverse, hconcat] at hhead
    simpa using hhead

/-- A text that is not all white space is not trimmed to nothing. -/
theorem trimEnd_ne_nil {cs : List Char} (h : ¬ Blank cs) : trimEnd cs ≠ [] := by
  intro hnil
  obtain ⟨blanks, hsplit, hblanks⟩ := exists_eq_trimEnd_append cs
  rw [hnil, List.nil_append] at hsplit
  exact h (hsplit ▸ hblanks)

/-- A separator stands before the last of several texts. -/
theorem join_concat (sep : List Char) {init : List (List Char)} (h : init ≠ [])
    (last : List Char) : join sep (init ++ [last]) = join sep init ++ sep ++ last := by
  induction init with
  | nil => exact absurd rfl h
  | cons piece init ih =>
      cases init with
      | nil => rfl
      | cons next init =>
          rw [List.cons_append, List.cons_append, join_cons_cons, join_cons_cons,
            ← List.cons_append, ih (List.cons_ne_nil next init)]
          simp

/-- The last line of a text. -/
def lastLine (cs : List Char) : List Char :=
  (cs.reverse.takeWhile (· != '\n')).reverse

/-- A text without a break is its own last line. -/
theorem lastLine_eq_self {line : List Char} (h : '\n' ∉ line) : lastLine line = line := by
  have htake : line.reverse.takeWhile (· != '\n') = line.reverse := by
    rw [List.takeWhile_eq_self_iff]
    rintro c hc
    rw [bne_iff_ne]
    rintro rfl
    exact h (List.mem_reverse.mp hc)
  rw [lastLine, htake, List.reverse_reverse]

/-- The last line is what follows the last break. -/
theorem lastLine_append {line : List Char} (h : '\n' ∉ line) (before : List Char) :
    lastLine (before ++ '\n' :: line) = line := by
  have hself := lastLine_eq_self h
  rw [lastLine] at hself ⊢
  rw [List.reverse_append, List.reverse_cons, List.append_assoc, List.takeWhile_append]
  rw [List.reverse_eq_iff] at hself
  rw [hself, if_pos rfl]
  simp

/-- The last of several lines is the last line of the text that they make up. -/
theorem exists_join_concat (init : List (List Char)) :
    ∃ before, (∀ last, join ['\n'] (init ++ [last]) = before ++ last) ∧
      ∀ line, '\n' ∉ line → lastLine (before ++ line) = line := by
  by_cases h : init = []
  · subst h
    exact ⟨[], fun last => rfl, fun line hline => lastLine_eq_self hline⟩
  · refine ⟨join ['\n'] init ++ ['\n'], fun last => join_concat _ h last, fun line hline => ?_⟩
    rw [List.append_assoc, List.singleton_append, lastLine_append hline]

end Text

namespace Registration

open Text (Blank lastLine)

/-! ### Code and comments -/

/-- White space, or white space with a comment behind it. -/
def Uncoded (cs : List Char) : Prop :=
  ∃ space comment, cs = space ++ comment ∧ Blank space ∧ (comment = [] ∨ ['/', '/'] <+: comment)

variable {cs more : List Char}

theorem uncoded_of_blank (h : Blank cs) : Uncoded cs :=
  ⟨cs, [], (List.append_nil cs).symm, h, Or.inl rfl⟩

theorem Uncoded.append (h : Uncoded cs) (hmore : Uncoded more) : Uncoded (cs ++ more) := by
  obtain ⟨space, comment, rfl, hspace, rfl | hcomment⟩ := h
  · obtain ⟨space', comment', rfl, hspace', hcomment'⟩ := hmore
    exact ⟨space ++ space', comment', by simp, hspace.append hspace', hcomment'⟩
  · exact ⟨space, comment ++ more, by simp, hspace,
      Or.inr (hcomment.trans (List.prefix_append _ _))⟩

/-- What has no code in it is white space, or has a comment in it. -/
theorem Uncoded.blank_or_infix (h : Uncoded cs) : Blank cs ∨ ['/', '/'] <:+: cs := by
  obtain ⟨space, comment, rfl, hspace, rfl | hcomment⟩ := h
  · rw [List.append_nil]
    exact Or.inl hspace
  · exact Or.inr (hcomment.isInfix.trans (List.suffix_append _ _).isInfix)

/-- **A line is code, and then white space and a comment**, if it has either. -/
theorem exists_eq_code_append (line : List Char) :
    ∃ rest, line = Text.trimEnd (codeOf line) ++ rest ∧ Uncoded rest ∧
      ¬ ['/', '/'] <:+: Text.trimEnd (codeOf line) := by
  obtain ⟨blanks, hcode, hblanks⟩ := Text.exists_eq_trimEnd_append (codeOf line)
  have htrim : Text.trimEnd (codeOf line) <:+: codeOf line := ⟨[], blanks, hcode.symm⟩
  obtain ⟨comment, hline, hcomment, hclean⟩ : ∃ comment, line = codeOf line ++ comment ∧
      (comment = [] ∨ ['/', '/'] <+: comment) ∧ ¬ ['/', '/'] <:+: codeOf line := by
    rw [codeOf]
    cases hfound : Text.indexOf? ['/', '/'] line with
    | none =>
        exact ⟨[], (List.append_nil line).symm, Or.inl rfl, Text.indexOf?_eq_none_iff.mp hfound⟩
    | some start =>
        exact ⟨line.drop start, (List.take_append_drop start line).symm,
          Or.inr (Text.prefix_drop_of_indexOf? hfound),
          Text.not_infix_take_of_indexOf? (by simp) hfound⟩
  refine ⟨blanks ++ comment, ?_, ⟨blanks, comment, rfl, hblanks, hcomment⟩,
    fun h => hclean (h.trans htrim)⟩
  rw [← List.append_assoc, ← hcode, ← hline]

/-! ### The last entry -/

/-- What becomes of the entries of a list when the last one is ended. -/
inductive EndsLastEntry : List Char → List Char → Prop
  /-- There are no entries. -/
  | uncoded {cs : List Char} (h : Uncoded cs) : EndsLastEntry cs cs
  /-- The last entry has a comma. -/
  | behindComma {before rest : List Char} (hrest : Uncoded rest) :
      EndsLastEntry (before ++ ',' :: rest) (before ++ ',' :: rest)
  /-- The last entry is given a comma, and not in a comment. -/
  | behindEntry {before rest : List Char} {c : Char} (hc : Text.Letter.isBlank c = false)
      (hcomma : c ≠ ',') (hcode : ¬ ['/', '/'] <:+: lastLine (before ++ [c]))
      (hrest : Uncoded rest) :
      EndsLastEntry (before ++ c :: rest) (before ++ c :: ',' :: rest)

/-- Entries on an earlier line, with lines without code behind them. -/
theorem EndsLastEntry.append {entries ended : List Char} (h : EndsLastEntry entries ended)
    (hmore : Uncoded more) : EndsLastEntry (entries ++ more) (ended ++ more) := by
  cases h with
  | uncoded h => exact .uncoded (h.append hmore)
  | @behindComma before rest hrest =>
      have hends : EndsLastEntry (before ++ ',' :: (rest ++ more))
          (before ++ ',' :: (rest ++ more)) := .behindComma (hrest.append hmore)
      simpa using hends
  | @behindEntry before rest c hc hcomma hcode hrest =>
      simpa using EndsLastEntry.behindEntry hc hcomma hcode (hrest.append hmore)

/-- Entries of which the last one ends on the last line. -/
theorem endsLastEntry_of_code {line code before : List Char}
    (hcode : Text.trimEnd (codeOf line) = code) (hne : code ≠ [])
    (hlast : lastLine (before ++ code) = code) :
    EndsLastEntry (before ++ line) (before ++
      if code.getLast? = some ',' then line else code ++ ',' :: line.drop code.length) := by
  obtain ⟨rest, hsplit, hrest, hclean⟩ := exists_eq_code_append line
  obtain ⟨front, c, hconcat, hc⟩ := Text.exists_concat_of_trimEnd_ne_nil (hcode ▸ hne)
  rw [hcode] at hsplit hclean hconcat
  rw [hsplit, List.drop_left]
  by_cases hcomma : c = ','
  · rw [if_pos (by simp [hconcat, hcomma]), hconcat, hcomma]
    have hends : EndsLastEntry ((before ++ front) ++ ',' :: rest)
        ((before ++ front) ++ ',' :: rest) := .behindComma hrest
    simpa using hends
  · rw [if_neg (by simp [hconcat, hcomma])]
    rw [hconcat] at hlast hclean ⊢
    rw [← hlast, ← List.append_assoc] at hclean
    simpa using EndsLastEntry.behindEntry hc hcomma hclean hrest

/-- Ending the last entry drops no line. -/
theorem endLastEntry_ne_nil {lines : List (List Char)} (h : lines ≠ []) :
    endLastEntry lines ≠ [] := by
  cases lines with
  | nil => exact absurd rfl h
  | cons line earlier =>
      rw [endLastEntry]
      split
      · exact List.cons_ne_nil _ _
      · split <;> exact List.cons_ne_nil _ _

/-- **What ending the last entry does** to the lines of a list, which come last line first. -/
theorem endsLastEntry_endLastEntry {lines : List (List Char)}
    (hlines : ∀ line ∈ lines, '\n' ∉ line) :
    EndsLastEntry (Text.join ['\n'] lines.reverse)
      (Text.join ['\n'] (endLastEntry lines).reverse) := by
  induction lines with
  | nil => exact .uncoded (uncoded_of_blank (by simp [Blank, Text.join]))
  | cons line earlier ih =>
      rw [List.forall_mem_cons] at hlines
      obtain ⟨rest, hsplit, hrest, -⟩ := exists_eq_code_append line
      obtain ⟨before, hjoin, hlast⟩ := Text.exists_join_concat earlier.reverse
      rw [endLastEntry]
      split
      · -- A line without code comes behind the last entry.
        rename_i hempty
        rw [List.isEmpty_iff.mp hempty, List.nil_append] at hsplit
        subst hsplit
        by_cases hearlier : earlier = []
        · rw [hearlier]
          exact .uncoded hrest
        · have hline : Uncoded (['\n'] ++ line) :=
            (uncoded_of_blank (List.forall_mem_singleton.mpr (by decide))).append hrest
          have hended : (endLastEntry earlier).reverse ≠ [] := by
            simpa using endLastEntry_ne_nil hearlier
          rw [List.reverse_cons, List.reverse_cons, Text.join_concat _ hended,
            Text.join_concat _ (by simpa using hearlier), List.append_assoc, List.append_assoc]
          exact (ih hlines.2).append hline
      · rename_i hne
        have hcode : ∀ c ∈ Text.trimEnd (codeOf line), c ∈ line := fun c hc => by
          rw [hsplit]
          exact List.mem_append_left rest hc
        have hends := endsLastEntry_of_code rfl (by simpa using hne)
          (hlast _ fun hmem => hlines.1 (hcode _ hmem))
        rw [List.reverse_cons, hjoin]
        split
        · rename_i hcomma
          rw [if_pos hcomma] at hends
          rw [List.reverse_cons, hjoin]
          exact hends
        · rename_i hcomma
          rw [if_neg hcomma] at hends
          rw [List.reverse_cons, hjoin]
          exact hends

/-! ### Longer lists -/

/-- A new entry is indented with white space. -/
theorem isBlank_of_mem_entryIndent {site : ListSite} {entries : List Char} {c : Char}
    (h : c ∈ entryIndent site entries) : Text.Letter.isBlank c = true := by
  have hindentation : ∀ {line : List Char}, c ∈ indentation line → Text.Letter.isBlank c = true :=
    fun hmem => List.mem_takeWhile_imp hmem
  rw [entryIndent] at h
  split at h
  · split at h
    · exact hindentation h
    · cases h
  · rcases List.mem_append.mp h with h | h
    · exact hindentation h
    · simp only [List.mem_cons, List.not_mem_nil, or_false, or_self] at h
      subst h
      decide

/-- How the interior of a list grows by an item. -/
inductive Grows (item : List Char) : List Char → List Char → Prop
  /-- The item is the first entry. -/
  | first {blanks : List Char} (hblanks : Blank blanks) : Grows item blanks item
  /-- The item comes behind the entries, and the last one needs no comma. -/
  | behind {entries gap blanks : List Char}
      (hentries : ['/', '/'] <:+: entries ∨ entries.getLast? = some ',') (hgap : Blank gap)
      (hblanks : Blank blanks) :
      Grows item (entries ++ blanks) (entries ++ '\n' :: (gap ++ item ++ ',' :: blanks))
  /-- The item comes behind the entries, and the last one is given a comma. -/
  | behindEntry {before rest gap blanks : List Char} {c : Char}
      (hc : Text.Letter.isBlank c = false) (hcomma : c ≠ ',')
      (hcode : ¬ ['/', '/'] <:+: lastLine (before ++ [c])) (hrest : Uncoded rest)
      (hentries : rest = [] ∨ ['/', '/'] <:+: rest) (hgap : Blank gap) (hblanks : Blank blanks) :
      Grows item (before ++ c :: (rest ++ blanks))
        (before ++ c :: ',' :: (rest ++ '\n' :: (gap ++ item ++ ',' :: blanks)))

/-- What has no code in it is nothing at the end of what is trimmed, or has a comment in it. -/
theorem Uncoded.eq_nil_or_infix {entries rest : List Char} {d : Char} (h : Uncoded rest)
    (hd : Text.Letter.isBlank d = false) (hlast : entries.getLast? = some d)
    (hrest : rest <:+ entries) : rest = [] ∨ ['/', '/'] <:+: rest := by
  rcases h.blank_or_infix with hblank | hcomment
  · rcases List.eq_nil_or_concat' rest with hnil | ⟨front, c, rfl⟩
    · exact Or.inl hnil
    · obtain ⟨before, rfl⟩ := hrest
      rw [← List.append_assoc, List.getLast?_concat] at hlast
      cases hlast
      exact absurd (hblank d (by simp)) (by simp [hd])
  · exact Or.inr hcomment

/-- An item comes on a new line behind entries that were ended. -/
theorem EndsLastEntry.grows {entries ended gap blanks : List Char} {d : Char}
    (h : EndsLastEntry entries ended) (hd : Text.Letter.isBlank d = false)
    (hlast : entries.getLast? = some d) (hgap : Blank gap) (hblanks : Blank blanks)
    (item : List Char) :
    Grows item (entries ++ blanks) (ended ++ '\n' :: (gap ++ item ++ ',' :: blanks)) := by
  cases h with
  | uncoded h =>
      rcases h.eq_nil_or_infix hd hlast List.suffix_rfl with rfl | hcomment
      · cases hlast
      · exact .behind (Or.inl hcomment) hgap hblanks
  | @behindComma before rest hrest =>
      refine .behind ?_ hgap hblanks
      rcases hrest.eq_nil_or_infix hd hlast ⟨before ++ [','], by simp⟩ with rfl | hcomment
      · exact Or.inr (by simp)
      · exact Or.inl (hcomment.trans ⟨before ++ [','], [], by simp⟩)
  | @behindEntry before rest c hc hcomma hcode hrest =>
      have hended := hrest.eq_nil_or_infix hd hlast ⟨before ++ [c], by simp⟩
      have hgrows : Grows item (before ++ c :: (rest ++ blanks))
          (before ++ c :: ',' :: (rest ++ '\n' :: (gap ++ item ++ ',' :: blanks))) :=
        .behindEntry hc hcomma hcode hrest hended hgap hblanks
      simpa using hgrows

/-- **How an interior grows.** -/
theorem grows_extendInterior (site : ListSite) (item : List Char) :
    Grows item site.interior (extendInterior site item) := by
  rw [extendInterior]
  split
  · rename_i hblank
    exact .first (List.all_eq_true.mp hblank)
  · rename_i hblank
    have hne : Text.trimEnd site.interior ≠ [] :=
      Text.trimEnd_ne_nil fun h => hblank (List.all_eq_true.mpr h)
    obtain ⟨front, d, hconcat, hd⟩ := Text.exists_concat_of_trimEnd_ne_nil hne
    obtain ⟨blanks, hinterior, hblanks⟩ := Text.exists_eq_trimEnd_append site.interior
    have hlast : (Text.trimEnd site.interior).getLast? = some d := by
      rw [hconcat, List.getLast?_concat]
    have hdrop : site.interior.drop (Text.trimEnd site.interior).length = blanks :=
      (congrArg (List.drop _) hinterior).trans List.drop_left
    have hgap : Blank (entryIndent site (Text.trimEnd site.interior)) := fun c hc =>
      isBlank_of_mem_entryIndent hc
    have hlines : ∀ line ∈ (Text.splitAtChar '\n' (Text.trimEnd site.interior)).reverse,
        '\n' ∉ line := fun line hline hmem => by
      have hpiece := Text.of_mem_splitBy (List.mem_reverse.mp hline) hmem
      exact absurd hpiece.2 (by decide)
    have hends := endsLastEntry_endLastEntry hlines
    rw [List.reverse_reverse, Text.join_splitAtChar] at hends
    have hgrows := hends.grows hd hlast hgap hblanks item
    rw [← hinterior] at hgrows
    dsimp only
    rw [hdrop]
    simpa using hgrows

end Registration

end ServiceGen
