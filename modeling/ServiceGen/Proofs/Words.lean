import ServiceGen.Proofs.Letters
import ServiceGen.Text.Words

/-!
# Words and Case Styles, in Theory

What cutting a name into words keeps, and what the case styles make of the words. Cutting
loses separators only: the words of a name, one after the other, are its letters and numbers
(`flatten_nameWords`). The snake-case form writes them in lower case, so up to separators it
is the name itself in lower case (`filter_isWord_snake`), and no case style brings ASCII
punctuation of its own into a name (`isAlphanum_of_mem_pascal`).

A name that is written in small letters, digits and separators already is cut at its
separators only, and `snake` puts one underscore for each run of them
(`snake_of_noCapitals`). Since joining can be undone (`splitBy_join`), two such names have the
same snake-case form only if they have the same pieces between separators
(`parts_snake_of_noCapitals`).
-/

namespace ServiceGen.Text

/-! ### Splitting and joining -/

/-- Splitting gives at least one piece. -/
theorem splitBy_ne_nil (p : Char → Bool) (cs : List Char) : splitBy p cs ≠ [] := by
  cases cs with
  | nil => simp [splitBy]
  | cons c rest =>
      rw [splitBy]
      split
      · simp
      · split <;> simp

/-- The pieces of a text, one after the other, are the text without its separators. -/
theorem flatten_splitBy (p : Char → Bool) (cs : List Char) :
    (splitBy p cs).flatten = cs.filter (!p ·) := by
  induction cs with
  | nil => rfl
  | cons c rest ih =>
      rw [splitBy]
      by_cases hc : p c = true
      · simp [hc, ih]
      · rw [if_neg hc]
        cases hrest : splitBy p rest with
        | nil => exact absurd hrest (splitBy_ne_nil p rest)
        | cons piece pieces =>
            rw [hrest, List.flatten_cons] at ih
            simp [hc, ← ih]

/-- A piece holds characters of the text, and no separators. -/
theorem of_mem_splitBy {p : Char → Bool} {cs piece : List Char} {c : Char}
    (hpiece : piece ∈ splitBy p cs) (hc : c ∈ piece) : c ∈ cs ∧ p c = false := by
  have hmem : c ∈ (splitBy p cs).flatten := List.mem_flatten.mpr ⟨piece, hpiece, hc⟩
  rw [flatten_splitBy, List.mem_filter] at hmem
  exact ⟨hmem.1, by simpa using hmem.2⟩

/-- A text without separators is its only piece. -/
theorem splitBy_eq_singleton {p : Char → Bool} {cs : List Char} (h : ∀ c ∈ cs, p c = false) :
    splitBy p cs = [cs] := by
  induction cs with
  | nil => rfl
  | cons c rest ih =>
      rw [splitBy, ih fun d hd => h d (List.mem_cons_of_mem c hd), h c List.mem_cons_self]
      rfl

/-- The pieces of two texts with a separator between them are those of both. -/
theorem splitBy_append_sep {p : Char → Bool} {sep : Char} (hsep : p sep = true)
    (before rest : List Char) :
    splitBy p (before ++ sep :: rest) = splitBy p before ++ splitBy p rest := by
  induction before with
  | nil => simp [splitBy, hsep]
  | cons c before ih =>
      rw [List.cons_append, splitBy, splitBy, ih]
      split
      · rfl
      · cases hpieces : splitBy p before with
        | nil => exact absurd hpieces (splitBy_ne_nil p before)
        | cons piece pieces => rfl

/-- A separator ends the first piece. -/
theorem splitBy_append_cons {p : Char → Bool} {piece : List Char} {sep : Char}
    (h : ∀ c ∈ piece, p c = false) (hsep : p sep = true) (rest : List Char) :
    splitBy p (piece ++ sep :: rest) = piece :: splitBy p rest := by
  rw [splitBy_append_sep hsep, splitBy_eq_singleton h, List.singleton_append]

/-- A character ends the first piece. -/
theorem splitAtChar_append_cons {sep : Char} {piece : List Char} (h : sep ∉ piece)
    (rest : List Char) :
    splitAtChar sep (piece ++ sep :: rest) = piece :: splitAtChar sep rest :=
  splitBy_append_cons (p := (· == sep))
    (fun c hc => beq_eq_false_iff_ne.mpr fun heq : c = sep => h (heq ▸ hc))
    (beq_self_eq_true sep) rest

/-- A text without a character is its only piece. -/
theorem splitAtChar_eq_singleton {sep : Char} {cs : List Char} (h : sep ∉ cs) :
    splitAtChar sep cs = [cs] :=
  splitBy_eq_singleton (p := (· == sep))
    fun c hc => beq_eq_false_iff_ne.mpr fun heq : c = sep => h (heq ▸ hc)

/-- Two pieces are joined with the separator between them. -/
theorem join_cons_cons (sep piece next : List Char) (rest : List (List Char)) :
    join sep (piece :: next :: rest) = piece ++ sep ++ join sep (next :: rest) := rfl

/-- **Joining can be undone** where no piece has a separator in it. -/
theorem splitBy_join {p : Char → Bool} {sep : Char} {pieces : List (List Char)}
    (hsep : p sep = true) (hne : pieces ≠ []) (h : ∀ piece ∈ pieces, ∀ c ∈ piece, p c = false) :
    splitBy p (join [sep] pieces) = pieces := by
  induction pieces with
  | nil => exact absurd rfl hne
  | cons piece rest ih =>
      cases rest with
      | nil => exact splitBy_eq_singleton (h piece List.mem_cons_self)
      | cons next rest =>
          have hrest := ih (by simp) fun q hq => h q (List.mem_cons_of_mem piece hq)
          rw [join_cons_cons, List.append_assoc, List.singleton_append,
            splitBy_append_cons (h piece List.mem_cons_self) hsep, hrest]

/-- The pieces of a text, joined again. -/
theorem join_splitAtChar (sep : Char) (cs : List Char) : join [sep] (splitAtChar sep cs) = cs := by
  induction cs with
  | nil => rfl
  | cons c rest ih =>
      rw [splitAtChar] at ih ⊢
      rw [splitBy]
      cases hpieces : splitBy (· == sep) rest with
      | nil => exact absurd hpieces (splitBy_ne_nil _ rest)
      | cons piece pieces =>
          rw [hpieces] at ih
          split
          · rename_i hsep
            rw [join_cons_cons, ih, List.nil_append, beq_iff_eq.mp hsep, List.singleton_append]
          · cases pieces with
            | nil => rw [join, ← ih, join]
            | cons next pieces =>
                rw [join_cons_cons] at ih ⊢
                rw [← ih, List.cons_append, List.cons_append]

/-- What a joined text consists of. -/
theorem mem_join {sep : List Char} {pieces : List (List Char)} {c : Char}
    (h : c ∈ join sep pieces) : c ∈ sep ∨ ∃ piece ∈ pieces, c ∈ piece := by
  induction pieces with
  | nil => cases h
  | cons piece rest ih =>
      cases rest with
      | nil => exact Or.inr ⟨piece, List.mem_cons_self, h⟩
      | cons next rest =>
          rw [join_cons_cons, List.mem_append, List.mem_append] at h
          rcases h with (h | h) | h
          · exact Or.inr ⟨piece, List.mem_cons_self, h⟩
          · exact Or.inl h
          · rcases ih h with h | ⟨q, hq, hc⟩
            · exact Or.inl h
            · exact Or.inr ⟨q, List.mem_cons_of_mem piece hq, hc⟩

/-- Filtering out the separator of a joined text leaves its filtered pieces. -/
theorem filter_join {p : Char → Bool} {sep : Char} (hsep : p sep = false)
    (pieces : List (List Char)) :
    (join [sep] pieces).filter p = (pieces.map (List.filter p)).flatten := by
  induction pieces with
  | nil => rfl
  | cons piece rest ih =>
      cases rest with
      | nil => simp [join]
      | cons next rest => simp [join, hsep, ih]

/-! ### Cutting a name into words -/

/-- The words of a run are the run. -/
theorem flatten_wordsOfRun (state : WordState) (word : List Char) {run : List Char}
    (h : run ≠ []) : (wordsOfRun state word run).flatten = word.reverse ++ run := by
  induction run generalizing state word with
  | nil => exact absurd rfl h
  | cons c rest ih =>
      cases rest with
      | nil => simp [wordsOfRun]
      | cons next rest =>
          rw [wordsOfRun]
          split
          · rw [List.flatten_cons, ih _ _ (by simp)]
            simp
          · split
            · rw [List.flatten_cons, ih _ _ (by simp)]
              simp
            · rw [ih _ _ (by simp)]
              simp

/-- The words of a name, one after the other, are its letters and numbers. -/
theorem flatten_nameWords (cs : List Char) :
    (nameWords cs).flatten = cs.filter Letter.isWord := by
  have hrun : ∀ run : List Char, (wordsOfRun .start [] run).flatten = run := by
    intro run
    cases run with
    | nil => rfl
    | cons c rest => exact flatten_wordsOfRun .start [] (by simp)
  rw [nameWords, List.flatMap_def, List.flatten_flatten, List.map_map]
  have hmap : List.flatten ∘ wordsOfRun .start [] = id := funext hrun
  rw [hmap, List.map_id, flatten_splitBy]
  simp

/-- A word consists of letters and numbers of the name. -/
theorem of_mem_nameWords {cs word : List Char} {c : Char} (hword : word ∈ nameWords cs)
    (hc : c ∈ word) : c ∈ cs ∧ Letter.isWord c = true := by
  have hmem : c ∈ (nameWords cs).flatten := List.mem_flatten.mpr ⟨word, hword, hc⟩
  rwa [flatten_nameWords, List.mem_filter] at hmem

/-- The words of two names with a separator between them are those of both. -/
theorem nameWords_append_sep {sep : Char} (hsep : Letter.isWord sep = false)
    (before rest : List Char) :
    nameWords (before ++ sep :: rest) = nameWords before ++ nameWords rest := by
  rw [nameWords, splitBy_append_sep (by rw [hsep]; rfl), List.flatMap_append]
  rfl

/-- A name with a letter or number in it has a word. -/
theorem nameWords_ne_nil {cs : List Char} {c : Char} (hc : c ∈ cs)
    (hword : Letter.isWord c = true) : nameWords cs ≠ [] := by
  intro hnil
  have hmem : c ∈ (nameWords cs).flatten := by
    rw [flatten_nameWords]
    exact List.mem_filter.mpr ⟨hc, hword⟩
  rw [hnil] at hmem
  cases hmem

/-- A run without capitals is one word. -/
theorem wordsOfRun_of_noCapitals (state : WordState) (word : List Char) {run : List Char}
    (hne : run ≠ []) (h : ∀ c ∈ run, Letter.isUpper c = false) :
    wordsOfRun state word run = [word.reverse ++ run] := by
  induction run generalizing state word with
  | nil => exact absurd rfl hne
  | cons c rest ih =>
      cases rest with
      | nil => simp [wordsOfRun]
      | cons next rest =>
          have hc := h c List.mem_cons_self
          have hnext := h next (by simp)
          rw [wordsOfRun, if_neg (by simp [hnext]), if_neg (by simp [hc]),
            ih _ _ (by simp) fun d hd => h d (List.mem_cons_of_mem c hd)]
          simp

/-! ### Case styles -/

/-- What a word in lower case consists of: lower-case forms of its characters, and the final
sigma. -/
theorem mem_lowerWord {word : List Char} {c : Char} (h : c ∈ lowerWord word) :
    c = 'ς' ∨ ∃ d ∈ word, c ∈ Letter.toLower d := by
  fun_induction lowerWord word with
  | case1 => cases h
  | case2 => exact Or.inl (List.mem_singleton.mp h)
  | case3 d rest _ ih =>
      rw [List.mem_append] at h
      rcases h with h | h
      · exact Or.inr ⟨d, List.mem_cons_self, h⟩
      · rcases ih h with h | ⟨e, he, hc⟩
        · exact Or.inl h
        · exact Or.inr ⟨e, List.mem_cons_of_mem d he, hc⟩

/-- A word of ASCII characters changes to lower case character by character. -/
theorem lowerWord_of_ascii {word : List Char} (h : ∀ c ∈ word, Letter.isAscii c = true) :
    lowerWord word = word.map Char.toLower := by
  fun_induction lowerWord word with
  | case1 => rfl
  | case2 => exact absurd (h 'Σ' List.mem_cons_self) (by decide)
  | case3 c rest _ ih =>
      rw [Letter.toLower_of_isAscii (h c List.mem_cons_self),
        ih fun d hd => h d (List.mem_cons_of_mem c hd)]
      rfl

/-- The ASCII characters of a snake-case form are letters, digits and underscores. -/
theorem isAlphanum_of_mem_snake {cs : List Char} {c : Char} (h : c ∈ snake cs)
    (hc : Letter.isAscii c = true) : c.isAlphanum = true ∨ c = '_' := by
  rcases mem_join h with h | ⟨piece, hpiece, hmem⟩
  · exact Or.inr (List.mem_singleton.mp h)
  · obtain ⟨word, hword, rfl⟩ := List.mem_map.mp hpiece
    rcases mem_lowerWord hmem with rfl | ⟨d, hd, hdc⟩
    · exact absurd hc (by decide)
    · exact Or.inl (Letter.isAlphanum_of_mem_toLower (of_mem_nameWords hword hd).2 hdc hc)

/-- A snake-case form has no ASCII punctuation in it but underscores. -/
theorem not_mem_snake {c : Char} (hc : Letter.isAscii c = true) (halnum : c.isAlphanum = false)
    (hne : c ≠ '_') (cs : List Char) : c ∉ snake cs := by
  intro hmem
  rcases isAlphanum_of_mem_snake hmem hc with h | h
  · rw [halnum] at h
    cases h
  · exact hne h

/-- The snake-case form of a name has no ASCII capital in it. -/
theorem isUpper_eq_false_of_mem_snake {cs : List Char} {c : Char} (h : c ∈ snake cs) :
    c.isUpper = false := by
  rcases mem_join h with h | ⟨piece, hpiece, hc⟩
  · rw [List.mem_singleton.mp h]
    decide
  · obtain ⟨word, -, rfl⟩ := List.mem_map.mp hpiece
    rcases mem_lowerWord hc with rfl | ⟨d, -, hd⟩
    · decide
    · exact Letter.isUpper_eq_false_of_mem_toLower hd

/-- **The Pascal-case form of a name has no ASCII punctuation in it.** -/
theorem isAlphanum_of_mem_pascal {cs : List Char} {c : Char} (h : c ∈ pascal cs)
    (hc : Letter.isAscii c = true) : c.isAlphanum = true := by
  obtain ⟨word, hword, hmem⟩ := List.mem_flatMap.mp h
  have hletters : ∀ d ∈ word, Letter.isWord d = true := fun d hd => (of_mem_nameWords hword hd).2
  cases word with
  | nil => cases hmem
  | cons first rest =>
      rw [capitalizeWord, List.mem_append] at hmem
      rcases hmem with hmem | hmem
      · exact Letter.isAlphanum_of_mem_toUpper (hletters first List.mem_cons_self) hmem hc
      · rcases mem_lowerWord hmem with rfl | ⟨d, hd, hdc⟩
        · exact absurd hc (by decide)
        · exact Letter.isAlphanum_of_mem_toLower (hletters d (List.mem_cons_of_mem first hd))
            hdc hc

/-- Names with the same ending are told apart by what is before it. -/
theorem injective_append (ending : String) :
    Function.Injective fun start : String => start ++ ending := by
  intro a b heq
  have hlist := congrArg String.toList heq
  simp only [String.toList_append] at hlist
  exact String.toList_inj.mp (List.append_cancel_right hlist)

/-! ### Texts without punctuation -/

/-- A text without ASCII punctuation, as the names of structs are. -/
def Unpunctuated (cs : List Char) : Prop :=
  ∀ c ∈ cs, Letter.isAscii c = true → c.isAlphanum = true

/-- A name in Pascal case has no ASCII punctuation in it. -/
theorem unpunctuated_pascal (cs : List Char) : Unpunctuated (pascal cs) :=
  fun _ => isAlphanum_of_mem_pascal

/-- Two texts without punctuation make up one. -/
theorem Unpunctuated.append {as bs : List Char} (ha : Unpunctuated as) (hb : Unpunctuated bs) :
    Unpunctuated (as ++ bs) := by
  intro c hc
  rcases List.mem_append.mp hc with hc | hc
  · exact ha c hc
  · exact hb c hc

/-- Whether a text has no punctuation can be checked character by character. -/
theorem unpunctuated_of_all {cs : List Char} (h : cs.all Char.isAlphanum = true) :
    Unpunctuated cs :=
  fun c hc _ => List.all_eq_true.mp h c hc

/-- **The snake-case form of a name is the name in lower case**, up to separators, where its
letters and numbers are ASCII. -/
theorem filter_isWord_snake {cs : List Char}
    (h : ∀ c ∈ cs, Letter.isWord c = true → Letter.isAscii c = true) :
    (snake cs).filter Letter.isWord = (cs.filter Letter.isWord).map Char.toLower := by
  have hword : ∀ word ∈ nameWords cs,
      (lowerWord word).filter Letter.isWord = word.map Char.toLower := by
    intro word hword
    have hmem : ∀ c ∈ word, c ∈ cs ∧ Letter.isWord c = true :=
      fun c hc => of_mem_nameWords hword hc
    have hascii : ∀ c ∈ word, Letter.isAscii c = true :=
      fun c hc => h c (hmem c hc).1 (hmem c hc).2
    rw [lowerWord_of_ascii hascii, List.filter_eq_self]
    intro c hc
    obtain ⟨d, hd, rfl⟩ := List.mem_map.mp hc
    rw [Letter.isWord_of_isAscii (by rw [Letter.isAscii_toLower, hascii d hd]),
      Letter.isAlphanum_toLower, ← Letter.isWord_of_isAscii (hascii d hd)]
    exact (hmem d hd).2
  calc (snake cs).filter Letter.isWord
      = (((nameWords cs).map lowerWord).map (List.filter Letter.isWord)).flatten :=
        filter_join (by decide) _
    _ = ((nameWords cs).map (List.map Char.toLower)).flatten := by
        rw [List.map_map]
        exact congrArg List.flatten (List.map_congr_left hword)
    _ = (nameWords cs).flatten.map Char.toLower := by rw [List.map_flatten]
    _ = (cs.filter Letter.isWord).map Char.toLower := by rw [flatten_nameWords]

/-- The pieces of a name between its separators. -/
def parts (cs : List Char) : List (List Char) :=
  (splitBy (!Letter.isWord ·) cs).filter (!·.isEmpty)

/-- A part of a name is not empty. -/
theorem ne_nil_of_mem_parts {cs part : List Char} (h : part ∈ parts cs) : part ≠ [] := by
  have hfilter := (List.mem_filter.mp h).2
  simpa using hfilter

/-- A part of a name consists of letters and numbers of it. -/
theorem of_mem_parts {cs part : List Char} {c : Char} (hpart : part ∈ parts cs)
    (hc : c ∈ part) : c ∈ cs ∧ Letter.isWord c = true := by
  obtain ⟨hcs, hsep⟩ := of_mem_splitBy (List.mem_filter.mp hpart).1 hc
  exact ⟨hcs, by simpa using hsep⟩

/-- A name without capitals is cut into words at its separators only. -/
theorem nameWords_of_noCapitals {cs : List Char} (h : ∀ c ∈ cs, Letter.isUpper c = false) :
    nameWords cs = parts cs := by
  have hrun : ∀ run ∈ splitBy (!Letter.isWord ·) cs,
      wordsOfRun .start [] run = if run.isEmpty then [] else [run] := by
    intro run hmem
    cases run with
    | nil => rfl
    | cons c rest =>
        exact wordsOfRun_of_noCapitals .start [] (by simp)
          fun d hd => h d (of_mem_splitBy hmem hd).1
  rw [nameWords, parts, List.flatMap_def, List.map_congr_left hrun]
  generalize splitBy (!Letter.isWord ·) cs = runs
  induction runs with
  | nil => rfl
  | cons run runs ih =>
      rw [List.map_cons, List.flatten_cons, ih]
      cases run <;> rfl

/-- **The snake-case form of a name without capitals** joins its parts with underscores. -/
theorem snake_of_noCapitals {cs : List Char} (hup : ∀ c ∈ cs, Letter.isUpper c = false)
    (hascii : ∀ c ∈ cs, Letter.isAscii c = true) : snake cs = join ['_'] (parts cs) := by
  have hword : ∀ word ∈ parts cs, lowerWord word = word := by
    intro word hword
    have hmem : ∀ c ∈ word, c ∈ cs := fun c hc => (of_mem_parts hword hc).1
    rw [lowerWord_of_ascii fun c hc => hascii c (hmem c hc)]
    refine Letter.map_toLower_eq_self fun c hc => ?_
    have hc' := hup c (hmem c hc)
    rwa [Letter.isUpper, if_pos (hascii c (hmem c hc))] at hc'
  rw [snake, nameWords_of_noCapitals hup, List.map_congr_left hword, List.map_id']

/-- Parts joined with underscores are found again. -/
theorem parts_join {pieces : List (List Char)}
    (h : ∀ piece ∈ pieces, piece ≠ [] ∧ ∀ c ∈ piece, Letter.isWord c = true) :
    parts (join ['_'] pieces) = pieces := by
  cases pieces with
  | nil => rfl
  | cons piece rest =>
      rw [parts, splitBy_join (by decide) (by simp) fun q hq c hc => by simp [(h q hq).2 c hc],
        List.filter_eq_self]
      intro q hq
      simpa using (h q hq).1

/-- The snake-case form of a name without capitals has the parts of the name. -/
theorem parts_snake_of_noCapitals {cs : List Char} (hup : ∀ c ∈ cs, Letter.isUpper c = false)
    (hascii : ∀ c ∈ cs, Letter.isAscii c = true) : parts (snake cs) = parts cs := by
  rw [snake_of_noCapitals hup hascii]
  exact parts_join fun part hpart =>
    ⟨ne_nil_of_mem_parts hpart, fun c hc => (of_mem_parts hpart hc).2⟩

/-- The snake-case form of a name without capitals is its own snake-case form. -/
theorem snake_snake_of_noCapitals {cs : List Char} (hup : ∀ c ∈ cs, Letter.isUpper c = false)
    (hascii : ∀ c ∈ cs, Letter.isAscii c = true) : snake (snake cs) = snake cs := by
  have hmem : ∀ c ∈ snake cs, c = '_' ∨ c ∈ cs := by
    intro c hc
    rw [snake_of_noCapitals hup hascii] at hc
    rcases mem_join hc with hc | ⟨part, hpart, hc⟩
    · exact Or.inl (List.mem_singleton.mp hc)
    · exact Or.inr (of_mem_parts hpart hc).1
  have hup' : ∀ c ∈ snake cs, Letter.isUpper c = false := by
    intro c hc
    rcases hmem c hc with rfl | hc
    · decide
    · exact hup c hc
  have hascii' : ∀ c ∈ snake cs, Letter.isAscii c = true := by
    intro c hc
    rcases hmem c hc with rfl | hc
    · decide
    · exact hascii c hc
  rw [snake_of_noCapitals hup' hascii', parts_snake_of_noCapitals hup hascii,
    ← snake_of_noCapitals hup hascii]

end ServiceGen.Text
