import ServiceGen.Layout
import ServiceGen.Proofs.Words

/-!
# Stems of Module Files

The files of a module are named after the snake-case form of its name, put into snake case once
more. That is not always the same: `İ` becomes `i` with a mark of its own, which separates words.
But a name that is not reserved does not become one that is
(`not_mem_ownedNames_snakeCase`): the names that the generator keeps for itself have no `i`
in them, and of the other letters those that change into ASCII are no lower-case forms
(`isAscii_of_toLower`).
-/

namespace ServiceGen

namespace Text

namespace Letter

/-! ### Lower-case forms -/

/-- The images of runs lie in some ranges of characters, unless they are in ASCII. -/
def imagesWithin (ranges : List (Nat × Nat)) (runs : List (Nat × Nat × Nat × Nat)) : Bool :=
  runs.all fun (first, last, _, image) =>
    (first = last && image < 0x80) || ranges.any fun r =>
      r.1 ≤ image && image + last - first ≤ r.2 && (r.2 < 0xD800 || (0xDFFF < r.1 && r.2 < 0x110000))

/-- The images of runs lie past ASCII, but for that of one code point; and none is that code
point. -/
def imagesApart (code : Nat) (runs : List (Nat × Nat × Nat × Nat)) : Bool :=
  runs.all fun (first, last, _, image) =>
    ((first = code && last = code) || 0x80 ≤ image)
      && (image + last - first < code || code < image)

/-- The lower-case forms are letters, and only the sign for the unit kelvin becomes ASCII. -/
theorem lowerImages_check :
    imagesWithin wordRanges lowerImages = true ∧ imagesApart 0x212A lowerImages = true := by
  decide +kernel

/-- A run has an image only of what lies in it. -/
theorem exists_run_of_imageIn {runs : List (Nat × Nat × Nat × Nat)} {code image : Nat}
    (h : imageIn runs code = some image) :
    ∃ first last step base, (first, last, step, base) ∈ runs ∧ first ≤ code ∧ code ≤ last ∧
      image = base + code - first := by
  obtain ⟨⟨first, last, step, base⟩, hmem, hrun⟩ := List.exists_of_findSome?_eq_some h
  simp only [Option.ite_none_right_eq_some, Bool.and_eq_true, decide_eq_true_eq,
    Option.some.injEq] at hrun
  exact ⟨first, last, step, base, hmem, hrun.1.1.1, hrun.1.1.2, hrun.2.symm⟩

/-- The images of runs that lie in ranges. -/
theorem inRanges_of_imageIn {ranges : List (Nat × Nat)} {runs : List (Nat × Nat × Nat × Nat)}
    (hcheck : imagesWithin ranges runs = true) {code image : Nat}
    (h : imageIn runs code = some image) :
    image < 0x80 ∨ inRanges ranges (Char.ofNat image) = true := by
  obtain ⟨first, last, step, base, hmem, hfirst, hlast, rfl⟩ := exists_run_of_imageIn h
  have hrun := List.all_eq_true.mp hcheck _ hmem
  simp only [Bool.or_eq_true, Bool.and_eq_true, decide_eq_true_eq, List.any_eq_true] at hrun
  rcases hrun with ⟨hone, hascii⟩ | ⟨r, hr, ⟨hbegin, hend⟩, hvalid⟩
  · exact Or.inl (by omega)
  · have hchar : (base + code - first).isValidChar := by
      rcases hvalid with hlow | ⟨hhigh, hmax⟩
      · exact Or.inl (by omega)
      · exact Or.inr ⟨by omega, by omega⟩
    refine Or.inr (List.any_eq_true.mpr ⟨r, hr, ?_⟩)
    rw [Char.toNat_ofNat, if_pos hchar, Bool.and_eq_true, decide_eq_true_eq, decide_eq_true_eq]
    omega

/-- What the lower-case form of a character outside ASCII is: an `i` with a mark, or one
character. -/
theorem toLower_of_not_ascii {d : Char} (hd : isAscii d = false) :
    toLower d = ['i', Char.ofNat 0x307] ∨
      (imageIn lowerImages d.toNat = none ∧ toLower d = [d]) ∨
        ∃ image, imageIn lowerImages d.toNat = some image ∧ toLower d = [Char.ofNat image] := by
  rw [toLower, if_neg (by simpa using hd)]
  cases hlookup : lowerExpansions.lookup d.toNat with
  | some codes =>
      left
      rw [lowerExpansions, List.lookup_cons] at hlookup
      split at hlookup
      · rw [← Option.some.inj hlookup]
        rfl
      · cases hlookup
  | none =>
      right
      cases imageIn lowerImages d.toNat with
      | none => exact Or.inl ⟨rfl, rfl⟩
      | some image => exact Or.inr ⟨image, rfl, rfl⟩

/-- A character past ASCII comes from another one. -/
theorem isAscii_eq_false_of_mem_toLower {c d : Char} (h : c ∈ toLower d)
    (hc : isAscii c = false) : isAscii d = false := by
  by_contra hd
  rw [toLower_of_isAscii (by simpa using hd), List.mem_singleton] at h
  rw [h, isAscii_toLower] at hc
  exact hd hc

/-- **The lower-case form of a letter is a letter**, or it has an `i` with a mark. -/
theorem isWord_of_mem_toLower {c d : Char} (hd : isWord d = true) (h : c ∈ toLower d) :
    isWord c = true ∨ 'i' ∈ toLower d := by
  by_cases hc : isAscii c = true
  · rw [isWord_of_isAscii hc]
    exact Or.inl (isAlphanum_of_mem_toLower hd h hc)
  · have hdascii := isAscii_eq_false_of_mem_toLower h (by simpa using hc)
    rcases toLower_of_not_ascii hdascii with hform | ⟨-, hform⟩ | ⟨image, himage, hform⟩
    · exact Or.inr (hform ▸ List.mem_cons_self)
    · rw [hform, List.mem_singleton] at h
      exact Or.inl (h ▸ hd)
    · rw [hform, List.mem_singleton] at h
      subst h
      left
      rw [isWord, if_neg hc]
      refine (inRanges_of_imageIn lowerImages_check.1 himage).resolve_left fun hlow => hc ?_
      rw [isAscii_iff, Char.toNat_ofNat, if_pos (Or.inl (by omega))]
      exact hlow

/-- Only the sign for the unit kelvin changes into ASCII. -/
theorem toNat_of_toLower_ascii {c : Char} (hc : isAscii c = false)
    (hlower : ∀ b ∈ toLower c, isAscii b = true) : c.toNat = 0x212A := by
  rcases toLower_of_not_ascii hc with hform | ⟨-, hform⟩ | ⟨image, himage, hform⟩
  · rw [hform] at hlower
    exact absurd (hlower (Char.ofNat 0x307) (by simp)) (by decide)
  · rw [hform] at hlower
    rw [hlower c (List.mem_singleton_self c)] at hc
    cases hc
  · rw [hform] at hlower
    have hascii := hlower _ (List.mem_singleton_self _)
    have hlow : image < 0x80 := by
      refine (inRanges_of_imageIn lowerImages_check.1 himage).resolve_right fun hword => ?_
      have hpast : inRanges [(0, 0x7F)] (Char.ofNat image) = false :=
        inRanges_eq_false_of_apart (by decide +kernel) hword
      rw [isAscii_iff] at hascii
      simp [inRanges] at hpast
      omega
    obtain ⟨first, last, step, base, hmem, hfirst, hlast, rfl⟩ := exists_run_of_imageIn himage
    have hrun := List.all_eq_true.mp lowerImages_check.2 _ hmem
    simp only [Bool.and_eq_true, Bool.or_eq_true, decide_eq_true_eq] at hrun
    omega

/-- **A lower-case form that changes into ASCII again is ASCII.** -/
theorem isAscii_of_toLower {c d : Char} (h : c ∈ toLower d)
    (hlower : ∀ b ∈ toLower c, isAscii b = true) : isAscii c = true := by
  by_contra hascii
  have hc : isAscii c = false := by simpa using hascii
  have hcode := toNat_of_toLower_ascii hc hlower
  rcases toLower_of_not_ascii (isAscii_eq_false_of_mem_toLower h hc) with
    hform | ⟨hnone, hform⟩ | ⟨image, himage, hform⟩
  · rw [hform] at h
    rcases List.mem_cons.mp h with rfl | h
    · cases hc
    · rw [List.mem_singleton.mp h] at hcode
      exact absurd hcode (by decide)
  · rw [hform, List.mem_singleton] at h
    rw [← h, hcode] at hnone
    exact absurd hnone (by decide)
  · rw [hform, List.mem_singleton] at h
    rw [h, Char.toNat_ofNat] at hcode
    split at hcode
    · obtain ⟨first, last, step, base, hmem, hfirst, hlast, rfl⟩ := exists_run_of_imageIn himage
      have hrun := List.all_eq_true.mp lowerImages_check.2 _ hmem
      simp only [Bool.and_eq_true, Bool.or_eq_true, decide_eq_true_eq] at hrun
      omega
    · cases hcode

end Letter

/-! ### Snake case of snake case -/

/-- No letter is lowered to nothing. -/
theorem Letter.toLower_ne_nil (c : Char) : Letter.toLower c ≠ [] := by
  by_cases hc : Letter.isAscii c = true
  · rw [Letter.toLower_of_isAscii hc]
    exact List.cons_ne_nil _ _
  · rcases Letter.toLower_of_not_ascii (by simpa using hc) with h | ⟨-, h⟩ | ⟨_, -, h⟩ <;>
      exact h ▸ List.cons_ne_nil _ _

/-- No letter is raised to nothing. -/
theorem Letter.toUpper_ne_nil (c : Char) : Letter.toUpper c ≠ [] := by
  have hexpansions : (Letter.upperExpansions.all fun e => !e.2.isEmpty) = true := by decide
  rw [Letter.toUpper]
  split
  · exact List.cons_ne_nil _ _
  · split
    · rename_i codes hlookup
      obtain ⟨before, after, heq, -⟩ := List.lookup_eq_some_iff.mp hlookup
      have hcodes := List.all_eq_true.mp hexpansions (c.toNat, codes)
        (heq ▸ List.mem_append_right before List.mem_cons_self)
      simpa using hcodes
    · exact List.cons_ne_nil _ _

/-- Words are not empty. -/
theorem ne_nil_of_mem_wordsOfRun {state : WordState} {word run : List Char}
    (hword : state = .upper → word ≠ []) : ∀ found ∈ wordsOfRun state word run, found ≠ [] := by
  induction run generalizing state word with
  | nil => simp [wordsOfRun]
  | cons c rest ih =>
      cases rest with
      | nil => simp [wordsOfRun]
      | cons next rest =>
          rw [wordsOfRun]
          split
          · exact List.forall_mem_cons.mpr ⟨by simp, ih (by rintro ⟨⟩)⟩
          · split
            · rename_i hcapital
              exact List.forall_mem_cons.mpr
                ⟨by simpa using hword hcapital.1, ih (by rintro ⟨⟩)⟩
            · exact ih fun _ => List.cons_ne_nil c word

/-- The words of a name are not empty. -/
theorem ne_nil_of_mem_nameWords {cs word : List Char} (h : word ∈ nameWords cs) : word ≠ [] := by
  obtain ⟨run, -, hword⟩ := List.mem_flatMap.mp h
  exact ne_nil_of_mem_wordsOfRun (by rintro ⟨⟩) word hword

/-- A word that is lowered keeps a letter. -/
theorem lowerWord_ne_nil {word : List Char} (h : word ≠ []) : lowerWord word ≠ [] := by
  fun_induction lowerWord word with
  | case1 => exact absurd rfl h
  | case2 => exact List.cons_ne_nil _ _
  | case3 c rest _ _ => simp [Letter.toLower_ne_nil]

/-- A word in lower case has the lower-case forms of its characters, but for a last sigma. -/
theorem toLower_subset_lowerWord {word : List Char} {c : Char} (h : c ∈ word) :
    Letter.toLower c ⊆ lowerWord word ∨ c = 'Σ' ∧ 'ς' ∈ lowerWord word := by
  fun_induction lowerWord word with
  | case1 => cases h
  | case2 => exact Or.inr ⟨List.mem_singleton.mp h, List.mem_singleton_self _⟩
  | case3 d rest _ ih =>
      rcases List.mem_cons.mp h with rfl | h
      · exact Or.inl (List.subset_append_left _ _)
      · exact (ih h).imp (fun hsubset => List.subset_append_of_subset_right _ hsubset)
          (And.imp_right (List.mem_append_right _))

/-- What is in a piece is in the pieces joined. -/
theorem mem_join_of_mem {sep : List Char} {pieces : List (List Char)} {piece : List Char}
    {c : Char} (h : piece ∈ pieces) (hc : c ∈ piece) : c ∈ join sep pieces := by
  induction pieces with
  | nil => cases h
  | cons first rest ih =>
      cases rest with
      | nil =>
          rw [List.mem_singleton.mp h] at hc
          exact hc
      | cons next rest =>
          rw [join_cons_cons]
          rcases List.mem_cons.mp h with rfl | h
          · exact List.mem_append_left _ (List.mem_append_left _ hc)
          · exact List.mem_append_right _ (ih h)

/-- Names joined to a text without the separator are one or none. -/
theorem length_le_one_of_not_mem_join {sep : Char} {pieces : List (List Char)}
    (h : sep ∉ join [sep] pieces) : pieces.length ≤ 1 := by
  match pieces with
  | [] => exact Nat.zero_le 1
  | [piece] => exact Nat.le_refl 1
  | piece :: next :: rest => exact absurd (by simp [join_cons_cons]) h

/-- A run has a word. -/
theorem wordsOfRun_ne_nil {run : List Char} (h : run ≠ []) : wordsOfRun .start [] run ≠ [] := by
  intro hnil
  have hflatten := flatten_wordsOfRun .start [] h
  rw [hnil] at hflatten
  exact h (by simpa using hflatten.symm)

/-- A name whose snake-case form has no underscore is one word. -/
theorem exists_nameWords_eq_singleton {cs : List Char} (hne : snake cs ≠ [])
    (hmark : '_' ∉ snake cs) : ∃ word, nameWords cs = [word] ∧ snake cs = lowerWord word := by
  have hlength := length_le_one_of_not_mem_join hmark
  rw [List.length_map] at hlength
  match hwords : nameWords cs with
  | [] => exact absurd (by rw [snake, hwords]; rfl) hne
  | [word] => exact ⟨word, rfl, by rw [snake, hwords]; rfl⟩
  | _ :: _ :: _ => simp [hwords] at hlength

/-- A character of a snake-case form that changes into ASCII is ASCII. -/
theorem isAscii_of_mem_snake_of_toLower {cs : List Char} {c : Char} (hc : c ∈ snake cs)
    (hlower : ∀ b ∈ Letter.toLower c, Letter.isAscii b = true) : Letter.isAscii c = true := by
  rcases mem_join hc with hsep | ⟨piece, hpiece, hcpiece⟩
  · rw [List.mem_singleton.mp hsep]
    decide
  · obtain ⟨word, -, rfl⟩ := List.mem_map.mp hpiece
    rcases mem_lowerWord hcpiece with rfl | ⟨d, -, hd⟩
    · exact absurd (hlower 'ς' (by decide)) (by decide)
    · exact Letter.isAscii_of_toLower hd hlower

/-- A word in lower case has letters only, unless one of them has an `i` with a mark. -/
theorem isWord_of_mem_lowerWord {word : List Char} (hword : ∀ d ∈ word, Letter.isWord d = true)
    (hi : 'i' ∉ lowerWord word) : ∀ c ∈ lowerWord word, Letter.isWord c = true := by
  intro c hc
  rcases mem_lowerWord hc with rfl | ⟨d, hd, hcd⟩
  · decide
  · refine (Letter.isWord_of_mem_toLower (hword d hd) hcd).resolve_right fun hmarked => ?_
    rcases toLower_subset_lowerWord hd with hsubset | ⟨rfl, -⟩
    · exact hi (hsubset hmarked)
    · exact absurd hmarked (by decide)

/-- Words that have letters only in lower case divide the snake-case form. -/
theorem nameWords_snake_of_letters {cs : List Char}
    (h : ∀ word ∈ nameWords cs, ∀ c ∈ lowerWord word, Letter.isWord c = true) :
    nameWords (snake cs) = ((nameWords cs).map lowerWord).flatMap (wordsOfRun .start []) := by
  by_cases hnone : nameWords cs = []
  · rw [snake, hnone]
    rfl
  · have hsplit : splitBy (!Letter.isWord ·) (snake cs) = (nameWords cs).map lowerWord := by
      refine splitBy_join (by decide) (by simpa using hnone) ?_
      refine List.forall_mem_map.mpr fun word hword c hc => ?_
      rw [h word hword c hc]
      rfl
    rw [nameWords, hsplit]

/-- A snake-case form that is one word, of letters only, is that word. -/
theorem snake_eq_of_nameWords_snake_eq_singleton {cs word : List Char}
    (h : ∀ word ∈ nameWords cs, ∀ c ∈ lowerWord word, Letter.isWord c = true)
    (hword : nameWords (snake cs) = [word]) : snake cs = word := by
  have hflatten := flatten_nameWords (snake cs)
  rw [hword, List.flatten_singleton] at hflatten
  have hwords := nameWords_snake_of_letters h
  rw [hword] at hwords
  match hcs : nameWords cs with
  | [] =>
      rw [hcs] at hwords
      cases hwords
  | [only] =>
      have hsnake : snake cs = lowerWord only := by
        rw [snake, hcs]
        rfl
      rw [hflatten, List.filter_eq_self.mpr]
      rw [hsnake]
      exact h only (hcs ▸ List.mem_singleton_self _)
  | first :: second :: rest =>
      -- Each of two words would leave a word.
      have hpos : ∀ other ∈ nameWords cs,
          0 < (wordsOfRun .start [] (lowerWord other)).length := fun other hother =>
        List.length_pos_iff.mpr
          (wordsOfRun_ne_nil (lowerWord_ne_nil (ne_nil_of_mem_nameWords hother)))
      have hfirst := hpos first (by simp [hcs])
      have hsecond := hpos second (by simp [hcs])
      have hcount := congrArg List.length hwords
      simp only [hcs, List.map_cons, List.flatMap_cons, List.length_append,
        List.length_singleton] at hcount
      omega

/-- **A name whose snake-case form becomes a plain word without an `i`** has that form already. -/
theorem snake_eq_of_snake_snake {cs plain : List Char} (h : snake (snake cs) = plain)
    (hne : plain ≠ []) (hascii : ∀ c ∈ plain, Letter.isAscii c = true) (hmark : '_' ∉ plain)
    (hi : 'i' ∉ plain) : snake cs = plain := by
  subst h
  obtain ⟨word, hword, hlower⟩ := exists_nameWords_eq_singleton hne hmark
  have hletters : word = (snake cs).filter Letter.isWord := by
    rw [← flatten_nameWords, hword, List.flatten_singleton]
  have hforms : ∀ c ∈ word, Letter.toLower c ⊆ snake (snake cs) := by
    intro c hc
    rcases toLower_subset_lowerWord hc with hsubset | ⟨-, hsigma⟩
    · exact hlower ▸ hsubset
    · exact absurd (hascii _ (hlower ▸ hsigma)) (by decide)
  -- An `i` would stay one, so the form has none, and no letter with a mark.
  have hunmarked : 'i' ∉ snake cs := by
    intro hmem
    have hcword : 'i' ∈ word := hletters ▸ List.mem_filter.mpr ⟨hmem, by decide⟩
    exact hi (hforms _ hcword (by decide))
  have hwords : ∀ other ∈ nameWords cs, ∀ c ∈ lowerWord other, Letter.isWord c = true := by
    intro other hother
    refine isWord_of_mem_lowerWord (fun d hd => (of_mem_nameWords hother hd).2) fun hmem => ?_
    exact hunmarked (mem_join_of_mem (List.mem_map_of_mem hother) hmem)
  have hsnake : snake cs = word := snake_eq_of_nameWords_snake_eq_singleton hwords hword
  have hasciiWord : ∀ c ∈ word, Letter.isAscii c = true := fun c hc =>
    isAscii_of_mem_snake_of_toLower (hsnake ▸ hc) fun b hb => hascii b (hforms c hc hb)
  rw [hlower, lowerWord_of_ascii hasciiWord, Letter.map_toLower_eq_self, hsnake]
  exact fun c hc => isUpper_eq_false_of_mem_snake (hsnake ▸ hc)

end Text

/-- **A name that is not reserved has no file of the generator's own**: its stem is none of the
names that the generator keeps for itself. -/
theorem Layout.not_mem_ownedNames_snakeCase {name : String} (h : isReserved name = false) :
    snakeCase (snakeCase name) ∉ ownedNames := by
  intro howned
  have hplain : (snakeCase (snakeCase name)).toList ≠ [] ∧
      (snakeCase (snakeCase name)).toList.all Text.Letter.isAscii = true ∧
        '_' ∉ (snakeCase (snakeCase name)).toList ∧
          'i' ∉ (snakeCase (snakeCase name)).toList := by
    generalize snakeCase (snakeCase name) = stem at howned
    simp only [ownedNames, List.mem_cons, List.not_mem_nil, or_false] at howned
    rcases howned with rfl | rfl | rfl | rfl <;>
      exact ⟨by decide, by decide, by decide, by decide⟩
  have heq : snakeCase (snakeCase name) = snakeCase name := by
    have hstem : (snakeCase name).toList = Text.snake name.toList := String.toList_ofList
    refine String.toList_inj.mp (Eq.symm ?_)
    rw [hstem]
    refine Text.snake_eq_of_snake_snake ?_ hplain.1 (List.all_eq_true.mp hplain.2.1)
      hplain.2.2.1 hplain.2.2.2
    rw [← hstem]
    exact String.toList_ofList.symm
  rw [heq] at howned
  rw [isReserved, Bool.or_eq_false_iff] at h
  rw [List.contains_iff_mem.mpr howned] at h
  cases h.1

end ServiceGen
