import ServiceGen.Proofs.Stems

/-!
# Names That Fall Together in Pascal Case

The Pascal-case form marks where a word begins by a capital. A word that begins with a digit gets
none, so the form does not tell it from an end of the word before it: `search2` and `search_2`
become the same. Nothing else is lost of an ASCII name but the case of its letters: two of them
have the same Pascal-case form exactly if they have the same words once each word that begins with
a digit is written behind the one before it (`pascal_eq_iff`).
-/

namespace ServiceGen.Text

/-! ### Small words -/

/-- A word of small letters and digits. -/
structure SmallWord (word : List Char) : Prop where
  ne_nil : word ≠ []
  small : ∀ c ∈ word, c.isLower = true ∨ c.isDigit = true

/-- Small letters and digits are in ASCII. -/
theorem isAscii_of_small {c : Char} (h : c.isLower = true ∨ c.isDigit = true) :
    Letter.isAscii c = true := by
  refine Letter.isAscii_of_isAlphanum ?_
  rcases h with h | h
  · simp [Char.isAlphanum, Char.isAlpha, h]
  · simp [Char.isAlphanum, h]

/-- Small letters and digits are no capitals. -/
theorem isUpper_of_small {c : Char} (h : c.isLower = true ∨ c.isDigit = true) :
    c.isUpper = false := by
  rw [← Bool.not_eq_true]
  intro hupper
  rcases h with h | h
  · exact Char.not_isUpper_of_isLower h hupper
  · simp only [Char.isUpper, Char.isDigit, Bool.and_eq_true, decide_eq_true_eq,
      UInt32.le_iff_toNat_le] at hupper h
    simp at hupper h
    omega

/-- **A small word** gets a capital at its front. -/
theorem capitalizeWord_of_small {c : Char} {rest : List Char} (h : SmallWord (c :: rest)) :
    capitalizeWord (c :: rest) = c.toUpper :: rest := by
  have hrest : ∀ d ∈ rest, d.isLower = true ∨ d.isDigit = true :=
    fun d hd => h.small d (List.mem_cons_of_mem c hd)
  rw [capitalizeWord, Letter.toUpper_of_isAscii (isAscii_of_small (h.small c List.mem_cons_self)),
    lowerWord_of_ascii fun d hd => isAscii_of_small (hrest d hd),
    Letter.map_toLower_eq_self fun d hd => isUpper_of_small (hrest d hd)]
  rfl

/-- A small letter has a capital, and a digit is its own. -/
theorem isUpper_toUpper_of_small {c : Char} (h : c.isLower = true ∨ c.isDigit = true) :
    c.toUpper.isUpper = !c.isDigit := by
  rw [Char.isUpper_toUpper_eq_isAlpha, Char.isAlpha, isUpper_of_small h, Bool.false_or]
  cases hdigit : c.isDigit with
  | false => simpa [hdigit] using h
  | true =>
      show c.isLower = false
      rw [← Bool.not_eq_true]
      intro hlower
      simp only [Char.isLower, Char.isDigit, Bool.and_eq_true, decide_eq_true_eq,
        UInt32.le_iff_toNat_le] at hlower hdigit
      simp at hlower hdigit
      omega

/-- Capitals tell small letters and digits apart. -/
theorem toUpper_inj_of_small {c d : Char} (hc : c.isLower = true ∨ c.isDigit = true)
    (hd : d.isLower = true ∨ d.isDigit = true) (h : c.toUpper = d.toUpper) : c = d := by
  calc c = c.toLower := (Letter.toLower_eq_self (isUpper_of_small hc)).symm
    _ = d.toLower := by
        rw [← Char.toLower_toUpper_eq_toLower, h, Char.toLower_toUpper_eq_toLower]
    _ = d := Letter.toLower_eq_self (isUpper_of_small hd)

/-! ### Words behind words -/

/-- Words in which one that begins with a digit is written behind the one before it. -/
def attachDigits : List (List Char) → List (List Char)
  | [] => []
  | word :: rest =>
    match attachDigits rest with
    | (c :: more) :: others =>
      if c.isDigit then (word ++ c :: more) :: others else word :: (c :: more) :: others
    | others => word :: others

/-- Small words of which none but the first begins with a digit. -/
inductive Attached : List (List Char) → Prop
  | nil : Attached []
  | single {word : List Char} (hword : SmallWord word) : Attached [word]
  | cons {word : List Char} (hword : SmallWord word) {c : Char} {more : List Char}
      {others : List (List Char)} (hc : c.isDigit = false)
      (hrest : Attached ((c :: more) :: others)) : Attached (word :: (c :: more) :: others)

theorem SmallWord.append {word other : List Char} (hword : SmallWord word)
    (hother : SmallWord other) : SmallWord (word ++ other) where
  ne_nil := List.append_ne_nil_of_left_ne_nil hword.ne_nil _
  small c hc := (List.mem_append.mp hc).elim (hword.small c) (hother.small c)

/-- The first of the attached words is small. -/
theorem Attached.smallWord_head {word : List Char} {rest : List (List Char)}
    (h : Attached (word :: rest)) : SmallWord word := by
  cases h with
  | single hword => exact hword
  | cons hword => exact hword

/-- The words after the first are attached too. -/
theorem Attached.tail {word : List Char} {rest : List (List Char)} (h : Attached (word :: rest)) :
    Attached rest := by
  cases h with
  | single => exact .nil
  | cons _ _ hrest => exact hrest

/-- A longer first word stays in place. -/
theorem Attached.append_head {word other : List Char} {rest : List (List Char)}
    (hword : SmallWord word) (h : Attached (other :: rest)) :
    Attached ((word ++ other) :: rest) := by
  cases h with
  | single hother => exact .single (hword.append hother)
  | cons hother hc hrest => exact .cons (hword.append hother) hc hrest

/-- **Words are attached** without a change to their Pascal-case form. -/
theorem attached_attachDigits {words : List (List Char)} (h : ∀ word ∈ words, SmallWord word) :
    Attached (attachDigits words) ∧
      (attachDigits words).flatMap capitalizeWord = words.flatMap capitalizeWord := by
  induction words with
  | nil => exact ⟨.nil, rfl⟩
  | cons word rest ih =>
      have hword := h word List.mem_cons_self
      obtain ⟨hrest, hform⟩ := ih fun other hother => h other (List.mem_cons_of_mem word hother)
      obtain ⟨first, tail, rfl⟩ := List.exists_cons_of_ne_nil hword.ne_nil
      rw [attachDigits, List.flatMap_cons, ← hform]
      match hattached : attachDigits rest with
      | [] => exact ⟨.single hword, rfl⟩
      | [] :: others =>
          rw [hattached] at hrest
          exact absurd rfl hrest.smallWord_head.ne_nil
      | (c :: more) :: others =>
          rw [hattached] at hrest
          have hnext := hrest.smallWord_head
          dsimp only
          split
          · rename_i hdigit
            refine ⟨hrest.append_head hword, ?_⟩
            -- A digit is its own capital, so it may as well stand inside a word.
            have hcapital : c.toUpper = c := by
              refine Char.toUpper_eq_of_not_isLower fun hlower => ?_
              have hnot := isUpper_toUpper_of_small (Or.inr hdigit)
              rw [Char.isUpper_toUpper_eq_isAlpha, Char.isAlpha, hlower, hdigit] at hnot
              simp at hnot
            have hboth := hword.append hnext
            rw [List.cons_append] at hboth ⊢
            rw [List.flatMap_cons, List.flatMap_cons, capitalizeWord_of_small hboth,
              capitalizeWord_of_small hword, capitalizeWord_of_small hnext, hcapital]
            simp
          · rename_i hletter
            exact ⟨.cons hword (by simpa using hletter) hrest, rfl⟩

/-- Where two texts go on with a character that is not `p`, or end, what is `p` before is the
same. -/
theorem append_inj_of_stops {p : Char → Bool} {before after rest other : List Char}
    (hbefore : ∀ c ∈ before, p c = true) (hafter : ∀ c ∈ after, p c = true)
    (hrest : ∀ c ∈ rest.head?, p c = false) (hother : ∀ c ∈ other.head?, p c = false)
    (h : before ++ rest = after ++ other) : before = after ∧ rest = other := by
  have hstop : ∀ {cs : List Char}, (∀ c ∈ cs.head?, p c = false) → cs.takeWhile p = [] := by
    intro cs hcs
    cases cs with
    | nil => rfl
    | cons c cs => exact List.takeWhile_cons_of_neg (by simp [hcs c rfl])
  have htake := congrArg (List.takeWhile p) h
  rw [List.takeWhile_append_of_pos hbefore, List.takeWhile_append_of_pos hafter, hstop hrest,
    hstop hother, List.append_nil, List.append_nil] at htake
  subst htake
  exact ⟨rfl, List.append_cancel_left h⟩

/-- No capital stands inside a small word. -/
theorem SmallWord.isUpper_tail {c : Char} {rest : List Char} (h : SmallWord (c :: rest)) :
    ∀ d ∈ rest, (!d.isUpper) = true := by
  intro d hd
  rw [isUpper_of_small (h.small d (List.mem_cons_of_mem c hd))]
  rfl

/-- Attached words go on with a capital. -/
theorem Attached.isUpper_head? {word : List Char} {rest : List (List Char)}
    (h : Attached (word :: rest)) :
    ∀ c ∈ (rest.flatMap capitalizeWord).head?, (!c.isUpper) = false := by
  cases h with
  | single => simp
  | cons _ hc hrest =>
      have hnext := hrest.smallWord_head
      rw [List.flatMap_cons, capitalizeWord_of_small hnext, List.cons_append, List.head?_cons]
      rintro d ⟨⟩
      rw [isUpper_toUpper_of_small (hnext.small _ List.mem_cons_self), hc]
      rfl

/-- **Attached words can be read back** from their Pascal-case form. -/
theorem Attached.eq_of_flatMap_capitalizeWord {words others : List (List Char)}
    (hwords : Attached words) (hothers : Attached others)
    (h : words.flatMap capitalizeWord = others.flatMap capitalizeWord) : words = others := by
  induction words generalizing others with
  | nil =>
      cases others with
      | nil => rfl
      | cons other rest =>
          obtain ⟨c, more, rfl⟩ := List.exists_cons_of_ne_nil hothers.smallWord_head.ne_nil
          rw [List.flatMap_cons, capitalizeWord_of_small hothers.smallWord_head] at h
          cases h
  | cons word rest ih =>
      have hword := hwords.smallWord_head
      obtain ⟨c, more, rfl⟩ := List.exists_cons_of_ne_nil hword.ne_nil
      cases others with
      | nil =>
          rw [List.flatMap_cons, capitalizeWord_of_small hword] at h
          cases h
      | cons other tail =>
          have hother := hothers.smallWord_head
          obtain ⟨d, next, rfl⟩ := List.exists_cons_of_ne_nil hother.ne_nil
          rw [List.flatMap_cons, List.flatMap_cons, capitalizeWord_of_small hword,
            capitalizeWord_of_small hother, List.cons_append, List.cons_append,
            List.cons.injEq] at h
          have hfirst := toUpper_inj_of_small (hword.small c List.mem_cons_self)
            (hother.small d List.mem_cons_self) h.1
          obtain ⟨hmore, hrest⟩ := append_inj_of_stops (p := (!Char.isUpper ·)) hword.isUpper_tail
            hother.isUpper_tail hwords.isUpper_head? hothers.isUpper_head? h.2
          rw [hfirst, hmore, ih hwords.tail hothers.tail hrest]

/-! ### Names -/

/-- The words of a name in lower case, each that begins with a digit behind the one before it. -/
def pascalWords (cs : List Char) : List (List Char) :=
  attachDigits ((nameWords cs).map lowerWord)

/-- A word of an ASCII name is small once it is lowered. -/
theorem smallWord_lowerWord {cs word : List Char} (h : ∀ c ∈ cs, Letter.isAscii c = true)
    (hword : word ∈ nameWords cs) : SmallWord (lowerWord word) := by
  have hascii : ∀ c ∈ word, Letter.isAscii c = true := fun c hc => h c (of_mem_nameWords hword hc).1
  refine ⟨lowerWord_ne_nil (ne_nil_of_mem_nameWords hword), fun c hc => ?_⟩
  rw [lowerWord_of_ascii hascii] at hc
  obtain ⟨d, hd, rfl⟩ := List.mem_map.mp hc
  have halnum : d.isAlphanum = true := by
    rw [← Letter.isWord_of_isAscii (hascii d hd)]
    exact (of_mem_nameWords hword hd).2
  rw [Char.isAlphanum, Bool.or_eq_true] at halnum
  rcases halnum with halpha | hdigit
  · exact Or.inl (by rw [Char.isLower_toLower_eq_isAlpha, halpha])
  · refine Or.inr ?_
    rwa [Letter.toLower_eq_self (isUpper_of_small (Or.inr hdigit))]

/-- The Pascal-case form of an ASCII name can be written from its words in lower case. -/
theorem pascal_eq_flatMap_pascalWords {cs : List Char} (h : ∀ c ∈ cs, Letter.isAscii c = true) :
    Attached (pascalWords cs) ∧ (pascalWords cs).flatMap capitalizeWord = pascal cs := by
  have hsmall : ∀ word ∈ (nameWords cs).map lowerWord, SmallWord word := by
    intro word hword
    obtain ⟨plain, hplain, rfl⟩ := List.mem_map.mp hword
    exact smallWord_lowerWord h hplain
  obtain ⟨hattached, hform⟩ := attached_attachDigits hsmall
  refine ⟨hattached, hform.trans ?_⟩
  rw [pascal, List.flatMap_map]
  refine List.flatMap_congr fun word hword => ?_
  have hlower := smallWord_lowerWord h hword
  have hascii : ∀ c ∈ word, Letter.isAscii c = true := fun c hc => h c (of_mem_nameWords hword hc).1
  cases word with
  | nil => rfl
  | cons c rest =>
      have hrest : ∀ d ∈ rest, Letter.isAscii d = true :=
        fun d hd => hascii d (List.mem_cons_of_mem c hd)
      rw [lowerWord_of_ascii hascii, List.map_cons] at hlower ⊢
      rw [capitalizeWord_of_small hlower, Char.toUpper_toLower_eq_toUpper, capitalizeWord,
        Letter.toUpper_of_isAscii (hascii c List.mem_cons_self), lowerWord_of_ascii hrest]
      rfl

/-- **Two ASCII names have the same Pascal-case form** exactly if they have the same words, once
each word that begins with a digit is written behind the one before it. -/
theorem pascal_eq_iff {as bs : List Char} (ha : ∀ c ∈ as, Letter.isAscii c = true)
    (hb : ∀ c ∈ bs, Letter.isAscii c = true) :
    pascal as = pascal bs ↔ pascalWords as = pascalWords bs := by
  obtain ⟨hattached, has⟩ := pascal_eq_flatMap_pascalWords ha
  obtain ⟨hother, hbs⟩ := pascal_eq_flatMap_pascalWords hb
  rw [← has, ← hbs]
  constructor
  · exact hattached.eq_of_flatMap_capitalizeWord hother
  · exact congrArg (List.flatMap capitalizeWord)

/-- Two names in Pascal case are told apart by these words. -/
theorem pascalCase_eq_iff {name other : String}
    (hname : ∀ c ∈ name.toList, Letter.isAscii c = true)
    (hother : ∀ c ∈ other.toList, Letter.isAscii c = true) :
    pascalCase name = pascalCase other ↔ pascalWords name.toList = pascalWords other.toList := by
  rw [pascalCase, pascalCase, String.ofList_inj, pascal_eq_iff hname hother]

end ServiceGen.Text
