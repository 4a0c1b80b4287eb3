import ServiceGen.Proofs.LastWords

/-!
# Plurals of Plurals

The plural of a name is its own plural if its last word stays as it is, by a table or since it looks
plural. So what is to be seen is the last word of each plural, in lower case. An ending goes to the
last word (`splitLastWord_append_small`), and in lower case it is that ending again, only that a
capital sigma may change its form when it is no longer the last letter. No word and no ending that
plurals are formed by has a sigma in it, so that this makes no difference
(`map_oneSigma_lowerText_append`).

A plural in `es` looks plural then, and an irregular plural is found in its table. One in `s` looks
plural unless it is one in `us`: these are taken for singulars such as `status`, if they are not
listed. So the plural of a plural is that plural but for names in `u` (`pluralOf_pluralOf`,
`not_forall_pluralOf_pluralOf`).
-/

namespace ServiceGen.Text

/-! ### Questions about a word in lower case -/

/-- A character, where the two small sigmas are taken for one. -/
def oneSigma (c : Char) : Char :=
  if c = 'ς' then 'σ' else c

/-- A word in lower case, letter by letter. -/
def lowerEach (cs : List Char) : List Char :=
  cs.flatMap Letter.toLower

/-- The lower-case form is that of each letter, but for the sigmas. -/
theorem map_oneSigma_lowerText (cs : List Char) :
    (Letter.lowerText cs).map oneSigma = (lowerEach cs).map oneSigma := by
  have hfrom : ∀ before, (Letter.lowerFrom before cs).map oneSigma =
      (lowerEach cs).map oneSigma := by
    induction cs with
    | nil => exact fun _ => rfl
    | cons c rest ih =>
        intro before
        rw [Letter.lowerFrom, lowerEach, List.flatMap_cons, List.map_append, List.map_append,
          ih, lowerEach]
        congr 1
        split
        · rename_i hsigma
          rw [eq_of_beq hsigma]
          split <;> decide
        · rfl
  exact hfrom []

variable {word : List Char}

/-- A text is a word of ASCII exactly if it is this word with one sigma for two. -/
theorem map_oneSigma_eq_iff (h : ∀ c ∈ word, Letter.isAscii c = true) {cs : List Char} :
    cs.map oneSigma = word ↔ cs = word := by
  have hword : ∀ c, Letter.isAscii (oneSigma c) = true → oneSigma c = c := by
    intro c hc
    rw [oneSigma] at hc ⊢
    split at hc
    · exact absurd hc (by decide)
    · rename_i hne
      exact if_neg hne
  have hid : ∀ {l : List Char}, (∀ c ∈ l, Letter.isAscii (oneSigma c) = true) →
      l.map oneSigma = l := by
    intro l hl
    exact (List.map_congr_left fun c hc => hword c (hl c hc)).trans (List.map_id l)
  constructor
  · rintro rfl
    exact (hid fun c hc => h _ (List.mem_map_of_mem hc)).symm
  · rintro rfl
    refine hid fun c hc => ?_
    have hne : c ≠ 'ς' := by
      rintro rfl
      exact absurd (h _ hc) (by decide)
    rw [oneSigma, if_neg hne]
    exact h c hc

/-- Whether a text is a word of a table does not depend on the sigmas. -/
theorem contains_map_oneSigma {table : List String}
    (h : (table.all fun word => word.toList.all Letter.isAscii) = true) (cs : List Char) :
    table.contains (String.ofList (cs.map oneSigma)) = table.contains (String.ofList cs) := by
  have hmem : ∀ word ∈ table, String.ofList (cs.map oneSigma) = word ↔ String.ofList cs = word := by
    intro word hword
    rw [← String.toList_inj, ← String.toList_inj, String.toList_ofList, String.toList_ofList,
      map_oneSigma_eq_iff (List.all_eq_true.mp (List.all_eq_true.mp h word hword))]
  rw [Bool.eq_iff_iff, List.contains_iff_mem, List.contains_iff_mem]
  exact ⟨fun hin => (hmem _ hin).mp rfl ▸ hin, fun hin => (hmem _ hin).mpr rfl ▸ hin⟩

/-- What a text ends with does not depend on the sigmas. -/
theorem endsWith_map_oneSigma {ending : String} (h : ending.toList.all Letter.isAscii = true)
    (cs : List Char) : endsWith ending (cs.map oneSigma) = endsWith ending cs := by
  have hascii := List.all_eq_true.mp h
  rw [Bool.eq_iff_iff, endsWith, endsWith, List.isSuffixOf_iff_suffix, List.isSuffixOf_iff_suffix]
  constructor
  · rintro ⟨front, hfront⟩
    obtain ⟨before, after, rfl, -, hafter⟩ := List.map_eq_append_iff.mp hfront.symm
    rw [(map_oneSigma_eq_iff hascii).mp hafter]
    exact List.suffix_append before _
  · rintro ⟨front, rfl⟩
    rw [List.map_append, (map_oneSigma_eq_iff hascii).mpr rfl]
    exact List.suffix_append _ _

/-- A word with an ending in small letters in lower case, but for the sigmas. -/
theorem map_oneSigma_lowerText_append (cs : List Char) {ending : List Char}
    (h : ∀ c ∈ ending, c.isLower = true) :
    (Letter.lowerText (cs ++ ending)).map oneSigma =
      (Letter.lowerText cs ++ ending).map oneSigma := by
  have hending : lowerEach ending = ending := by
    induction ending with
    | nil => rfl
    | cons c rest ih =>
        obtain ⟨hc, hrest⟩ := List.forall_mem_cons.mp h
        rw [lowerEach, List.flatMap_cons, (of_isLower hc).2.2, ← lowerEach, ih hrest]
        rfl
  rw [map_oneSigma_lowerText, lowerEach, List.flatMap_append, List.map_append, List.map_append,
    ← lowerEach, ← lowerEach, hending, map_oneSigma_lowerText]

/-- What small letters end is the same before and after lowering. -/
theorem endsWith_lowerText_append {ending : String}
    (hascii : ending.toList.all Letter.isAscii = true) (cs : List Char) {more : List Char}
    (hmore : ∀ c ∈ more, c.isLower = true) :
    endsWith ending (Letter.lowerText (cs ++ more)) =
      endsWith ending (Letter.lowerText cs ++ more) := by
  rw [← endsWith_map_oneSigma hascii, map_oneSigma_lowerText_append cs hmore,
    endsWith_map_oneSigma hascii]

/-- So is what a table of ASCII words has. -/
theorem contains_lowerText_append {table : List String}
    (hascii : (table.all fun word => word.toList.all Letter.isAscii) = true) (cs : List Char)
    {more : List Char} (hmore : ∀ c ∈ more, c.isLower = true) :
    table.contains (String.ofList (Letter.lowerText (cs ++ more))) =
      table.contains (String.ofList (Letter.lowerText cs ++ more)) := by
  rw [← contains_map_oneSigma hascii, map_oneSigma_lowerText_append cs hmore,
    contains_map_oneSigma hascii]

/-! ### Words that stay as they are -/

variable {cs stem last lower : List Char}

/-- A word is in no table of words without its ending. -/
theorem not_mem_of_endsWith {table : List String} {ending : String}
    (hlower : endsWith ending lower = true)
    (h : (table.all fun word => !endsWith ending word.toList) = true) :
    String.ofList lower ∉ table := by
  intro hmem
  have hword := List.all_eq_true.mp h _ hmem
  rw [String.toList_ofList, hlower] at hword
  cases hword

/-- The words that have a plural of their own, and these plurals. -/
def irregularWords : List String :=
  irregularPlurals.flatMap fun (one, many) => [one, many]

/-- The plural of a word that is in no table follows its ending. -/
theorem pluralFrom_of_not_mem (huncountable : String.ofList lower ∉ uncountableWords)
    (hus : String.ofList lower ∉ pluralsInUs) (hirregular : String.ofList lower ∉ irregularWords) :
    pluralFrom cs stem last lower = pluralByEnding cs lower := by
  have hfind : (irregularPlurals.find? fun (one, many) =>
      String.ofList lower == one || String.ofList lower == many) = none := by
    refine List.find?_eq_none.mpr fun pair hpair heq => hirregular ?_
    refine List.mem_flatMap.mpr ⟨pair, hpair, ?_⟩
    rw [Bool.or_eq_true, beq_iff_eq, beq_iff_eq] at heq
    rcases heq with heq | heq <;> simp [heq]
  rw [pluralFrom, List.contains_eq_mem, List.contains_eq_mem, decide_eq_false huncountable,
    decide_eq_false hus, hfind]
  rfl

/-- A word that is its own plural by one of the tables. -/
theorem pluralFrom_of_mem
    (h : String.ofList lower ∈ uncountableWords ∨ String.ofList lower ∈ pluralsInUs) :
    pluralFrom cs stem last lower = cs := by
  rw [pluralFrom, if_pos]
  rwa [Bool.or_eq_true, List.contains_iff_mem, List.contains_iff_mem]

/-- An irregular plural stays as it is. -/
theorem pluralFrom_many {pair : String × String} (h : pair ∈ irregularPlurals) :
    pluralFrom cs stem last pair.2.toList = cs := by
  simp only [irregularPlurals, List.mem_cons, List.not_mem_nil, or_false] at h
  rcases h with rfl | rfl | rfl | rfl | rfl | rfl | rfl | rfl <;> rfl

/-- Whether a word in lower case looks plural. -/
def looksPlural (lower : List Char) : Bool :=
  endsWith "s" lower && !endsWith "ss" lower && !endsWith "us" lower

/-- **A word that looks plural stays as it is**, in a table or not. -/
theorem pluralFrom_of_looksPlural (h : looksPlural lower = true) :
    pluralFrom cs stem last lower = cs := by
  simp only [looksPlural, Bool.and_eq_true, Bool.not_eq_true'] at h
  obtain ⟨⟨hs, hss⟩, hus⟩ := h
  by_cases hlisted : String.ofList lower ∈ uncountableWords ∨ String.ofList lower ∈ pluralsInUs
  · exact pluralFrom_of_mem hlisted
  · rw [not_or] at hlisted
    rw [pluralFrom_of_not_mem hlisted.1 hlisted.2 (not_mem_of_endsWith hs (by decide)),
      pluralByEnding]
    obtain ⟨front, rfl⟩ := exists_of_endsWith hs
    have hothers : ["x", "z", "ch", "sh"].any (endsWith · (front ++ "s".toList)) = false := by
      simp only [endsWith_append]
      rfl
    have hhissing : hissingEndings.any (endsWith · (front ++ "s".toList)) = false := by
      change (endsWith "ss" _ || (endsWith "us" _ || ["x", "z", "ch", "sh"].any _)) = false
      rw [hss, hus, hothers]
      rfl
    rw [hhissing, hs]
    rfl

/-- A word in `u` takes `s`. -/
theorem pluralFrom_of_u (h : endsWith "u" lower = true) :
    pluralFrom cs stem last lower = cs ++ ['s'] := by
  rw [pluralFrom_of_not_mem (not_mem_of_endsWith h (by decide)) (not_mem_of_endsWith h (by decide))
    (not_mem_of_endsWith h (by decide)), pluralByEnding]
  obtain ⟨front, rfl⟩ := exists_of_endsWith h
  have hhissing : hissingEndings.any (endsWith · (front ++ "u".toList)) = false := by
    simp only [endsWith_append]
    rfl
  have hs : endsWith "s" (front ++ "u".toList) = false := by
    rw [endsWith_append]
    rfl
  have hy : endsWith "y" (front ++ "u".toList) = false := by
    rw [endsWith_append]
    rfl
  rw [hhissing, hs, hy]
  rfl

/-- A word in `us` that is not listed takes `es`. -/
theorem pluralFrom_of_us (h : endsWith "us" lower = true)
    (hlisted : String.ofList lower ∉ pluralsInUs) :
    pluralFrom cs stem last lower = cs ++ ['e', 's'] := by
  have hhissing : hissingEndings.any (endsWith · lower) = true :=
    List.any_eq_true.mpr ⟨"us", by decide, h⟩
  rw [pluralFrom_of_not_mem (not_mem_of_endsWith h (by decide)) hlisted
    (not_mem_of_endsWith h (by decide)), pluralByEnding, hhissing]
  rfl

/-! ### Plurals of names -/

/-- **What ends in `es` stays as it is.** -/
theorem plural_append_es (cs : List Char) : plural (cs ++ ['e', 's']) = cs ++ ['e', 's'] := by
  have hsmall : ∀ c ∈ ['e', 's'], c.isLower = true := by simp
  rw [plural_eq, splitLastWord_append_small cs hsmall]
  refine pluralFrom_of_looksPlural ?_
  rw [looksPlural, endsWith_lowerText_append (by decide) _ hsmall,
    endsWith_lowerText_append (by decide) _ hsmall, endsWith_lowerText_append (by decide) _ hsmall]
  simp only [endsWith_append]
  rfl

/-- A replacement for a word is in Pascal case if the word begins with a capital, and else it stays
as it is. -/
theorem withInitialOf_cases (word replacement : List Char) :
    (withInitialOf word replacement = pascal replacement ∧
        ∃ c, word.head? = some c ∧ Letter.isUpper c = true) ∨
      (withInitialOf word replacement = replacement ∧
        ∀ c, word.head? = some c → Letter.isUpper c = false) := by
  cases word with
  | nil => exact Or.inr ⟨rfl, fun c hc => by cases hc⟩
  | cons c rest =>
      rw [withInitialOf]
      by_cases hc : Letter.isUpper c = true
      · exact Or.inl ⟨if_pos hc, c, rfl, hc⟩
      · refine Or.inr ⟨if_neg hc, fun d hd => ?_⟩
        rw [← Option.some.inj hd]
        simpa using hc

/-- What is checked of each irregular plural, as it stands in the table and in Pascal case. -/
theorem irregularPlurals_check :
    (irregularPlurals.all fun pair =>
      ([pair.2.toList, pascal pair.2.toList].all fun many => many.all (!isSeparator ·)
        && lastHump many == 0 && Letter.lowerText many == pair.2.toList)
        && (pascal pair.2.toList).head?.map Letter.isUpper == some true) = true := by
  decide

/-- An irregular plural is a last word where its singular is one, and in lower case it is that of
the table. -/
theorem IsLastWord.withInitialOf (h : IsLastWord stem last) {pair : String × String}
    (hpair : pair ∈ irregularPlurals) :
    IsLastWord stem (withInitialOf last pair.2.toList) ∧
      Letter.lowerText (withInitialOf last pair.2.toList) = pair.2.toList := by
  have hcheck := List.all_eq_true.mp irregularPlurals_check pair hpair
  rw [Bool.and_eq_true, List.all_eq_true] at hcheck
  obtain ⟨hforms, hcapital⟩ := hcheck
  have hform : ∀ many ∈ [pair.2.toList, pascal pair.2.toList],
      (∀ c ∈ many, isSeparator c = false) ∧ lastHump many = 0 ∧
        Letter.lowerText many = pair.2.toList := by
    intro many hmany
    simpa [and_assoc] using hforms many hmany
  rcases withInitialOf_cases last pair.2.toList with ⟨heq, -⟩ | ⟨heq, hsmall⟩
  · obtain ⟨hjoined, hlevel, hlower⟩ := hform _ (List.mem_cons_of_mem _ (List.mem_singleton_self _))
    rw [heq]
    refine ⟨⟨hjoined, hlevel, fun c hc => (h.begins c hc).imp_right ?_⟩, hlower⟩
    rintro ⟨-, -, hc, -⟩
    obtain ⟨d, hd, hupper⟩ := Option.map_eq_some_iff.mp (eq_of_beq hcapital)
    exact ⟨d, hd, hc, hupper⟩
  · obtain ⟨hjoined, hlevel, hlower⟩ := hform _ List.mem_cons_self
    rw [heq]
    refine ⟨⟨hjoined, hlevel, fun c hc => Or.inl ?_⟩, hlower⟩
    refine (h.begins c hc).resolve_right ?_
    rintro ⟨d, hd, -, hupper⟩
    rw [hsmall d hd] at hupper
    cases hupper

/-- **An irregular plural stays as it is**, behind the same stem. -/
theorem plural_append_irregular (h : IsLastWord stem last) {pair : String × String}
    (hpair : pair ∈ irregularPlurals) :
    plural (stem ++ withInitialOf last pair.2.toList) =
      stem ++ withInitialOf last pair.2.toList := by
  obtain ⟨hword, hlower⟩ := h.withInitialOf hpair
  rw [plural_eq, splitLastWord_of_isLastWord hword, hlower, pluralFrom_many hpair]

/-- Whether the last word of a name ends in `u`, and its plural in `us` is not listed. -/
def endsInU (cs : List Char) : Bool :=
  let lower := Letter.lowerText (splitLastWord cs).2
  endsWith "u" lower && !pluralsInUs.contains (String.ofList (lower ++ ['s']))

/-- **What takes `s` stays as it is** from then on, but for a plural in `us` that is not listed. -/
theorem plural_append_s (cs : List Char)
    (h : endsWith "s" (Letter.lowerText (splitLastWord cs).2) = false) :
    plural (cs ++ ['s']) = if endsInU cs then cs ++ ['s', 'e', 's'] else cs ++ ['s'] := by
  have hsmall : ∀ c ∈ ['s'], c.isLower = true := by simp
  rw [plural_eq, splitLastWord_append_small cs hsmall, endsInU]
  generalize (splitLastWord cs).2 = last at h ⊢
  have hs : endsWith "s" (Letter.lowerText (last ++ ['s'])) = true := by
    rw [endsWith_lowerText_append (by decide) last hsmall, endsWith_append]
    rfl
  have hss : endsWith "ss" (Letter.lowerText (last ++ ['s'])) = false := by
    rw [endsWith_lowerText_append (by decide) last hsmall, endsWith_append]
    exact h
  have hus : endsWith "us" (Letter.lowerText (last ++ ['s'])) =
      endsWith "u" (Letter.lowerText last) := by
    rw [endsWith_lowerText_append (by decide) last hsmall, endsWith_append]
    rfl
  have hlisted : pluralsInUs.contains (String.ofList (Letter.lowerText (last ++ ['s']))) =
      pluralsInUs.contains (String.ofList (Letter.lowerText last ++ ['s'])) :=
    contains_lowerText_append (by decide) last hsmall
  by_cases hu : endsWith "u" (Letter.lowerText last) = true
  · rw [hu] at hus ⊢
    rw [← hlisted, Bool.true_and]
    split
    · rename_i hnot
      rw [pluralFrom_of_us hus (by simpa using hnot)]
      simp
    · rename_i hin
      exact pluralFrom_of_mem (Or.inr (by simpa using hin))
  · rw [Bool.not_eq_true] at hu
    rw [hu] at hus ⊢
    exact pluralFrom_of_looksPlural (by rw [looksPlural, hs, hss, hus]; rfl)

/-- A name in `u` takes `s`. -/
theorem plural_of_endsWith_u {cs : List Char}
    (h : endsWith "u" (Letter.lowerText (splitLastWord cs).2) = true) :
    plural cs = cs ++ ['s'] ∧
      endsWith "s" (Letter.lowerText (splitLastWord cs).2) = false := by
  rw [plural_eq]
  refine ⟨pluralFrom_of_u h, ?_⟩
  obtain ⟨front, hfront⟩ := exists_of_endsWith h
  rw [hfront, endsWith_append]
  rfl

/-- **The plural of a plural** is that plural, but for one in `us` that is not listed. -/
theorem plural_plural (cs : List Char) :
    plural (plural cs) = if endsInU cs then plural cs ++ ['e', 's'] else plural cs := by
  by_cases hu : endsInU cs = true
  · obtain ⟨hplural, hs⟩ := plural_of_endsWith_u (Bool.and_eq_true_iff.mp hu).1
    rw [if_pos hu, hplural, plural_append_s cs hs, if_pos hu, List.append_assoc]
    rfl
  · rw [if_neg hu]
    have hform := pluralForm_plural cs
    generalize hmany : plural cs = many at hform
    cases hform with
    | same => exact hmany
    | irregular pair hpair _ => exact plural_append_irregular (isLastWord_splitLastWord cs) hpair
    | es => exact plural_append_es cs
    | ies _ =>
        have hies : cs.dropLast ++ ['i', 'e', 's'] = (cs.dropLast ++ ['i']) ++ ['e', 's'] := by simp
        rw [hies]
        exact plural_append_es _
    | s hs => rw [plural_append_s cs hs, if_neg hu]

/-- **Nothing changes from the second time on.** -/
theorem plural_plural_plural (cs : List Char) :
    plural (plural (plural cs)) = plural (plural cs) := by
  have h := plural_plural cs
  split at h
  · rw [h, plural_append_es]
  · rw [h, h]

end ServiceGen.Text

namespace ServiceGen

/-- **When the plural of a plural is that plural**: always, but for names whose last word ends in
`u`, unless its plural in `us` is listed. These take `s`, and any other word in `us` is a singular,
so that such a plural takes `es`. Then nothing changes any more, and a name that looks plural does
not change at all. -/
theorem pluralOf_pluralOf (name : String) :
    (pluralOf (pluralOf name) =
        if Text.endsInU name.toList then pluralOf name ++ "es" else pluralOf name) ∧
      pluralOf (pluralOf (pluralOf name)) = pluralOf (pluralOf name) ∧
      (Text.endsInU name.toList = true → pluralOf name = name ++ "s") ∧
      (Text.looksPlural (Text.Letter.lowerText (Text.splitLastWord name.toList).2) = true →
        pluralOf name = name) := by
  refine ⟨?_, ?_, fun h => ?_, fun h => ?_⟩
  · rw [pluralOf, pluralOf, String.toList_ofList, Text.plural_plural, ← String.toList_inj]
    split <;> simp
  · rw [pluralOf, pluralOf, pluralOf, String.toList_ofList, String.toList_ofList,
      Text.plural_plural_plural]
  · rw [pluralOf, (Text.plural_of_endsWith_u (Bool.and_eq_true_iff.mp h).1).1, ← String.toList_inj]
    simp
  · rw [pluralOf, Text.plural_eq, Text.pluralFrom_of_looksPlural h, String.ofList_toList]

/-- A name that looks plural in its last word, and one in `u`. -/
theorem pluralOf_pluralOf_salesOrders :
    (Text.looksPlural (Text.Letter.lowerText (Text.splitLastWord "salesOrders".toList).2) = true ∧
        pluralOf "salesOrders" = "salesOrders") ∧
      Text.endsInU "statu".toList = true ∧ pluralOf "statu" = "statu" ++ "s" := by
  have hplural : Text.looksPlural
      (Text.Letter.lowerText (Text.splitLastWord "salesOrders".toList).2) = true := by
    decide +kernel
  have hu : Text.endsInU "statu".toList = true := by decide +kernel
  exact ⟨⟨hplural, (pluralOf_pluralOf "salesOrders").2.2.2 hplural⟩, hu,
    (pluralOf_pluralOf "statu").2.2.1 hu⟩

/-- **A plural may have another plural**: `status` is the plural of `statu`, but also a singular. -/
theorem not_forall_pluralOf_pluralOf :
    ¬ ∀ name, pluralOf (pluralOf name) = pluralOf name := by
  intro h
  exact absurd (h "statu") (by decide +kernel)

end ServiceGen
