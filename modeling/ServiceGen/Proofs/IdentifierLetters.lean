import ServiceGen.Proofs.Stems
import ServiceGen.Source.Token

/-!
# Letters of Identifiers

A name is cut into words of letters and numbers, and not all of these may stand in an identifier:
`x²` is a word, but no identifier. Changing the case of a letter does not matter to that: a letter
may stand in identifiers exactly if its forms in the other case may (`all_toLower`, `all_toUpper`).
So which case styles of a name are identifiers is decided by the name itself: by the letter or
number that comes first in it (`leading?`, `beginsWithLetter`), and by whether there is one that no
identifier may have (`Spellable`).

## Main results

* `isIdentifier_pascal_iff`: when a name in Pascal case is an identifier.
* `isIdentifier_snake_iff`: when a name in snake case is one.
-/

namespace ServiceGen

open Source.Scan (startsWord continuesWord)

namespace Text

namespace Letter

/-! ### Letters that may stand in identifiers -/

/-- Inclusive ranges of characters of identifiers. Every letter that changes its case is in one of
them, with what it changes into, but for the letters of ASCII and those in circles. -/
def caseRanges : List (Nat × Nat) := [
    (0xB5, 0xB5), (0xC0, 0xD6), (0xD8, 0xF6), (0xF8, 0x2C1), (0x300, 0x344), (0x345, 0x345),
    (0x363, 0x374), (0x376, 0x377), (0x37B, 0x37D), (0x37F, 0x37F), (0x386, 0x386), (0x388, 0x38A),
    (0x38C, 0x38C), (0x38E, 0x3A1), (0x3A3, 0x3F5), (0x3F7, 0x481), (0x48A, 0x52F), (0x531, 0x556),
    (0x560, 0x588), (0x10A0, 0x10C5), (0x10C7, 0x10C7), (0x10CD, 0x10CD), (0x10D0, 0x10FA),
    (0x10FC, 0x1248), (0x13A0, 0x13F5), (0x13F8, 0x13FD), (0x1C80, 0x1C8A), (0x1C90, 0x1CBA),
    (0x1CBD, 0x1CBF), (0x1D00, 0x1DBF), (0x1E00, 0x1F15), (0x1F18, 0x1F1D), (0x1F20, 0x1F45),
    (0x1F48, 0x1F4D), (0x1F50, 0x1F57), (0x1F59, 0x1F59), (0x1F5B, 0x1F5B), (0x1F5D, 0x1F5D),
    (0x1F5F, 0x1F7D), (0x1F80, 0x1FB4), (0x1FB6, 0x1FBC), (0x1FBE, 0x1FBE), (0x1FC2, 0x1FC4),
    (0x1FC6, 0x1FCC), (0x1FD0, 0x1FD3), (0x1FD6, 0x1FDB), (0x1FE0, 0x1FEC), (0x1FF2, 0x1FF4),
    (0x1FF6, 0x1FFC), (0x2126, 0x2126), (0x212A, 0x212D), (0x212F, 0x2139), (0x214E, 0x214E),
    (0x2160, 0x2188), (0x2C00, 0x2CE4), (0x2CEB, 0x2CEE), (0x2CF2, 0x2CF3), (0x2D00, 0x2D25),
    (0x2D27, 0x2D27), (0x2D2D, 0x2D2D), (0xA640, 0xA66E), (0xA67F, 0xA6EF), (0xA722, 0xA788),
    (0xA78B, 0xA7DC), (0xA7F1, 0xA805), (0xAB30, 0xAB5A), (0xAB70, 0xABEA), (0xFB00, 0xFB06),
    (0xFB13, 0xFB17), (0xFF21, 0xFF3A), (0xFF41, 0xFF5A), (0x10400, 0x1049D), (0x104B0, 0x104D3),
    (0x104D8, 0x104FB), (0x10570, 0x1057A), (0x1057C, 0x1058A), (0x1058C, 0x10592),
    (0x10594, 0x10595), (0x10597, 0x105A1), (0x105A3, 0x105B1), (0x105B3, 0x105B9),
    (0x105BB, 0x105BC), (0x10C80, 0x10CB2), (0x10CC0, 0x10CF2), (0x10D40, 0x10D65),
    (0x10D6F, 0x10D85), (0x118A0, 0x118E9), (0x16E40, 0x16E7F), (0x16EA0, 0x16EB8),
    (0x16EBB, 0x16ED3), (0x1E900, 0x1E943)]

/-- The code points from one to another lie in one of some ranges of characters. -/
def within (ranges : List (Nat × Nat)) (first last : Nat) : Bool :=
  ranges.any fun r =>
    r.1.ble first && last.ble r.2 && (r.2.blt 0xD800 || (Nat.blt 0xDFFF r.1 && r.2.blt 0x110000))

/-- The code points from one to another lie in none of some ranges. -/
def outside (ranges : List (Nat × Nat)) (first last : Nat) : Bool :=
  ranges.all fun r => last.blt r.1 || r.2.blt first

/-- The characters in the ranges are letters of identifiers, or marks on these. -/
theorem caseRanges_check :
    (caseRanges.all fun r => (within wordRanges r.1 r.2 && outside wordOnlyRanges r.1 r.2)
      || within joiningRanges r.1 r.2) = true := by
  decide +kernel

/-- The characters in the tables are past ASCII, and a letter that no identifier has is no mark. -/
theorem letterRanges_apart :
    apart wordRanges [(0, 0x7F)] = true ∧ apart wordOnlyRanges [(0, 0x7F)] = true ∧
      apart joiningRanges [(0, 0x7F)] = true ∧ apart wordOnlyRanges joiningRanges = true := by
  decide +kernel

/-- A character in ranges past ASCII is past ASCII. -/
theorem isAscii_eq_false_of_inRanges {ranges : List (Nat × Nat)} {c : Char}
    (hapart : apart ranges [(0, 0x7F)] = true) (h : inRanges ranges c = true) :
    isAscii c = false := by
  have hpast := inRanges_eq_false_of_apart hapart h
  simp [inRanges] at hpast
  rw [isAscii, decide_eq_false_iff_not]
  omega

/-- The code points within ranges are characters in these. -/
theorem inRanges_of_within {ranges : List (Nat × Nat)} {first last code : Nat}
    (h : within ranges first last = true) (hfirst : first ≤ code) (hlast : code ≤ last) :
    inRanges ranges (Char.ofNat code) = true ∧ (Char.ofNat code).toNat = code := by
  obtain ⟨r, hr, hcheck⟩ := List.any_eq_true.mp h
  simp only [Bool.and_eq_true, Bool.or_eq_true, Nat.ble_eq, Nat.blt_eq] at hcheck
  have hvalid : code.isValidChar := by
    rcases hcheck.2 with hlow | ⟨hhigh, hmax⟩
    · exact Or.inl (by omega)
    · exact Or.inr ⟨by omega, by omega⟩
  have htoNat : (Char.ofNat code).toNat = code := by rw [Char.toNat_ofNat, if_pos hvalid]
  refine ⟨List.any_eq_true.mpr ⟨r, hr, ?_⟩, htoNat⟩
  rw [htoNat, Bool.and_eq_true, decide_eq_true_eq, decide_eq_true_eq]
  omega

/-- A letter or digit of ASCII may stand in identifiers. -/
theorem isIdentifierContinue_of_isAlphanum {c : Char} (h : c.isAlphanum = true) :
    isIdentifierContinue c = true := by
  simp [isIdentifierContinue, isAscii_of_isAlphanum h, h]

/-- A letter in the table of those that no identifier has. -/
theorem isIdentifierContinue_of_wordOnly {c : Char} (h : inRanges wordOnlyRanges c = true) :
    isIdentifierContinue c = false := by
  rw [isIdentifierContinue, isAscii_eq_false_of_inRanges letterRanges_apart.2.1 h, h,
    inRanges_eq_false_of_apart letterRanges_apart.2.2.2 h]
  simp

/-- The code points within the ranges above are characters of identifiers. -/
theorem isIdentifierContinue_of_within {first last code : Nat}
    (h : within caseRanges first last = true) (hfirst : first ≤ code) (hlast : code ≤ last) :
    isIdentifierContinue (Char.ofNat code) = true := by
  obtain ⟨r, hr, hcode⟩ := List.any_eq_true.mp h
  simp only [Bool.and_eq_true, Nat.ble_eq] at hcode
  have hcheck := List.all_eq_true.mp caseRanges_check r hr
  have hleast : r.1 ≤ code := by omega
  have hgreatest : code ≤ r.2 := by omega
  rw [Bool.or_eq_true, Bool.and_eq_true] at hcheck
  rcases hcheck with ⟨hword, hothers⟩ | hmark
  · obtain ⟨hin, htoNat⟩ := inRanges_of_within hword hleast hgreatest
    have honly : inRanges wordOnlyRanges (Char.ofNat code) = false := by
      refine List.any_eq_false.mpr fun q hq hin => ?_
      have hq := List.all_eq_true.mp hothers q hq
      simp only [Bool.and_eq_true, Bool.or_eq_true, Nat.blt_eq, decide_eq_true_eq] at hin hq
      omega
    simp [isIdentifierContinue, isAscii_eq_false_of_inRanges letterRanges_apart.1 hin, hin, honly]
  · have hin := (inRanges_of_within hmark hleast hgreatest).1
    simp [isIdentifierContinue, isAscii_eq_false_of_inRanges letterRanges_apart.2.2.1 hin, hin]

/-! ### Case changes in the tables -/

/-- A code point is a character of identifiers, by rule or by the ranges above. -/
def continues (code : Nat) : Bool :=
  if code.blt 0x80 then (Char.ofNat code).isAlphanum else within caseRanges code code

/-- What the table of letters allows may stand in an identifier. -/
theorem isIdentifierContinue_of_continues {code : Nat} (h : continues code = true) :
    isIdentifierContinue (Char.ofNat code) = true := by
  rw [continues] at h
  split at h
  · exact isIdentifierContinue_of_isAlphanum h
  · exact isIdentifierContinue_of_within h (Nat.le_refl code) (Nat.le_refl code)

/-- Runs lead from characters of identifiers to such characters, which are looked at one by one
where not all lie in one range, or from letters that no identifier has to such letters. -/
def runsKeep (runs : List (Nat × Nat × Nat × Nat)) : Bool :=
  runs.all fun (first, last, step, image) =>
    (within caseRanges first last && within caseRanges image (image + last - first))
      || ((List.range (last - first + 1)).all fun i =>
        i % step != 0 || (continues (first + i) && continues (image + i)))
      || (within wordOnlyRanges first last && within wordOnlyRanges image (image + last - first))

/-- Expansions lead from characters of identifiers to such characters. -/
def expansionsKeep (expansions : List (Nat × List Nat)) : Bool :=
  expansions.all fun (code, codes) => continues code && codes.all continues

/-- The tables keep to the characters of identifiers. -/
theorem caseTables_keep :
    (runsKeep lowerImages = true ∧ expansionsKeep lowerExpansions = true) ∧
      runsKeep upperImages = true ∧ expansionsKeep upperExpansions = true := by
  decide +kernel

/-- **A run keeps to identifiers.** -/
theorem isIdentifierContinue_image {runs : List (Nat × Nat × Nat × Nat)}
    (hkeep : runsKeep runs = true) {d : Char} {image : Nat}
    (h : imageIn runs d.toNat = some image) :
    isIdentifierContinue (Char.ofNat image) = isIdentifierContinue d := by
  obtain ⟨⟨first, last, step, base⟩, hmem, hrun⟩ := List.exists_of_findSome?_eq_some h
  simp only [Option.ite_none_right_eq_some, Bool.and_eq_true, decide_eq_true_eq, beq_iff_eq,
    Option.some.injEq] at hrun
  obtain ⟨⟨⟨hfirst, hlast⟩, hstep⟩, rfl⟩ := hrun
  have hcheck := List.all_eq_true.mp hkeep _ hmem
  simp only [Bool.or_eq_true, Bool.and_eq_true] at hcheck
  nth_rewrite 2 [← Char.ofNat_toNat d]
  rcases hcheck with (⟨hd, himage⟩ | heach) | ⟨hd, himage⟩
  · rw [isIdentifierContinue_of_within hd hfirst hlast,
      isIdentifierContinue_of_within himage (by omega) (by omega)]
  · have hi := List.all_eq_true.mp heach (d.toNat - first) (List.mem_range.mpr (by omega))
    simp only [hstep, bne_self_eq_false, Bool.false_or, Bool.and_eq_true] at hi
    rw [show first + (d.toNat - first) = d.toNat by omega,
      show base + (d.toNat - first) = base + d.toNat - first by omega] at hi
    rw [isIdentifierContinue_of_continues hi.1, isIdentifierContinue_of_continues hi.2]
  · rw [isIdentifierContinue_of_wordOnly (inRanges_of_within hd hfirst hlast).1,
      isIdentifierContinue_of_wordOnly (inRanges_of_within himage (by omega) (by omega)).1]

/-- **A character keeps to identifiers** when the tables change its case. -/
theorem all_changed {runs : List (Nat × Nat × Nat × Nat)} {expansions : List (Nat × List Nat)}
    (hkeep : runsKeep runs = true ∧ expansionsKeep expansions = true) (d : Char) :
    (match expansions.lookup d.toNat with
      | some codes => codes.map Char.ofNat
      | none => [((imageIn runs d.toNat).map Char.ofNat).getD d]).all isIdentifierContinue =
        isIdentifierContinue d := by
  split
  · rename_i codes hlookup
    have hmem : (d.toNat, codes) ∈ expansions := by
      obtain ⟨before, after, rfl, -⟩ := List.lookup_eq_some_iff.mp hlookup
      exact List.mem_append_right before List.mem_cons_self
    have hentry := List.all_eq_true.mp hkeep.2 _ hmem
    rw [Bool.and_eq_true, List.all_eq_true] at hentry
    have hd := isIdentifierContinue_of_continues hentry.1
    rw [Char.ofNat_toNat] at hd
    rw [hd, List.all_map, List.all_eq_true]
    exact fun code hcode => isIdentifierContinue_of_continues (hentry.2 code hcode)
  · rw [List.all_cons, List.all_nil, Bool.and_true]
    cases himage : imageIn runs d.toNat with
    | none => rfl
    | some image => exact isIdentifierContinue_image hkeep.1 himage

/-- **Lower case** keeps characters inside or outside of identifiers. -/
theorem all_toLower (c : Char) : (toLower c).all isIdentifierContinue = isIdentifierContinue c := by
  by_cases hc : isAscii c = true
  · rw [toLower_of_isAscii hc, List.all_cons, List.all_nil, Bool.and_true]
    by_cases hupper : c.isUpper = true
    · have halnum : c.isAlphanum = true := by simp [Char.isAlphanum, Char.isAlpha, hupper]
      rw [isIdentifierContinue_of_isAlphanum halnum,
        isIdentifierContinue_of_isAlphanum (by rwa [isAlphanum_toLower])]
    · rw [Char.toLower_eq_of_not_isUpper hupper]
  · simp only [toLower, hc]
    exact all_changed caseTables_keep.1 c

/-- **Upper case** keeps characters inside or outside of identifiers. -/
theorem all_toUpper (c : Char) : (toUpper c).all isIdentifierContinue = isIdentifierContinue c := by
  by_cases hc : isAscii c = true
  · rw [toUpper_of_isAscii hc, List.all_cons, List.all_nil, Bool.and_true]
    by_cases hlower : c.isLower = true
    · have halnum : c.isAlphanum = true := by simp [Char.isAlphanum, Char.isAlpha, hlower]
      rw [isIdentifierContinue_of_isAlphanum halnum,
        isIdentifierContinue_of_isAlphanum (by rwa [isAlphanum_toUpper])]
    · rw [Char.toUpper_eq_of_not_isLower hlower]
  · simp only [toUpper, hc]
    exact all_changed caseTables_keep.2 c

end Letter

/-! ### Names that identifiers can be made of -/

/-- A text whose letters and numbers may all stand in identifiers. -/
def Spellable (cs : List Char) : Prop :=
  ∀ c ∈ cs, Letter.isWord c = true → Letter.isIdentifierContinue c = true

instance (cs : List Char) : Decidable (Spellable cs) :=
  inferInstanceAs (Decidable (∀ c ∈ cs, _ → _))

/-- The letter or number that comes first in a text. -/
def leading? (cs : List Char) : Option Char :=
  cs.find? Letter.isWord

/-- Whether the first letter or number of a text is a letter of ASCII. -/
def beginsWithLetter (cs : List Char) : Bool :=
  (leading? cs).any Char.isAlpha

/-- A text whose first letter or number is one of ASCII. -/
def AsciiLed (cs : List Char) : Prop :=
  ∃ c, leading? cs = some c ∧ Letter.isAscii c = true

theorem spellable_append {as bs : List Char} :
    Spellable (as ++ bs) ↔ Spellable as ∧ Spellable bs :=
  List.forall_mem_append

theorem Spellable.mono {as bs : List Char} (h : Spellable bs) (hsubset : as ⊆ bs) :
    Spellable as :=
  fun c hc => h c (hsubset hc)

/-- An ASCII text has only letters of identifiers. -/
theorem spellable_of_ascii {cs : List Char} (h : ∀ c ∈ cs, Letter.isAscii c = true) :
    Spellable cs := by
  intro c hc hword
  rw [Letter.isWord_of_isAscii (h c hc)] at hword
  exact Letter.isIdentifierContinue_of_isAlphanum hword

/-- ASCII can always be spelled. -/
theorem spellable_of_all {cs : List Char} (h : cs.all Letter.isAscii = true) : Spellable cs :=
  spellable_of_ascii (List.all_eq_true.mp h)

/-- Whether a text can be spelled is decided by its words. -/
theorem spellable_iff_nameWords {cs : List Char} :
    Spellable cs ↔ ∀ word ∈ nameWords cs, ∀ c ∈ word, Letter.isIdentifierContinue c = true := by
  rw [← List.forall_mem_flatten (p := (Letter.isIdentifierContinue · = true)), flatten_nameWords]
  simp [Spellable]

/-- The leading letter of a text is the first letter of its words. -/
theorem leading?_eq_head? (cs : List Char) : leading? cs = (nameWords cs).flatten.head? := by
  rw [flatten_nameWords, List.head?_filter, leading?]

/-- Of two texts, the first that has a letter or number has the leading one. -/
theorem leading?_append (as bs : List Char) :
    leading? (as ++ bs) = (leading? as).or (leading? bs) :=
  List.find?_append

/-- The leading letter is part of a word. -/
theorem isWord_of_leading? {cs : List Char} {c : Char} (h : leading? cs = some c) :
    Letter.isWord c = true :=
  List.find?_some h

/-! ### Case styles of a name -/

variable {word cs : List Char}

/-- A word in lower case has the letters of identifiers that it had before. -/
theorem forall_lowerWord :
    (∀ c ∈ lowerWord word, Letter.isIdentifierContinue c = true) ↔
      ∀ c ∈ word, Letter.isIdentifierContinue c = true := by
  fun_induction lowerWord word with
  | case1 => rfl
  | case2 =>
      -- The final form of a sigma is no other than its small form as far as identifiers go.
      have hsmall : Letter.within Letter.caseRanges 0x3C2 0x3C2 = true := by decide
      have hlarge : Letter.within Letter.caseRanges 0x3A3 0x3A3 = true := by decide
      have hfinal : Letter.isIdentifierContinue 'ς' = true :=
        Letter.isIdentifierContinue_of_within hsmall le_rfl le_rfl
      have hcapital : Letter.isIdentifierContinue 'Σ' = true :=
        Letter.isIdentifierContinue_of_within hlarge le_rfl le_rfl
      rw [List.forall_mem_singleton, List.forall_mem_singleton, hfinal, hcapital]
  | case3 c rest _ ih =>
      rw [List.forall_mem_append, ih, List.forall_mem_cons, ← Letter.all_toLower c,
        List.all_eq_true]

/-- So has a word with a capital. -/
theorem forall_capitalizeWord :
    (∀ c ∈ capitalizeWord word, Letter.isIdentifierContinue c = true) ↔
      ∀ c ∈ word, Letter.isIdentifierContinue c = true := by
  cases word with
  | nil => rfl
  | cons c rest =>
      rw [capitalizeWord, List.forall_mem_append, forall_lowerWord, List.forall_mem_cons,
        ← Letter.all_toUpper c, List.all_eq_true]

/-- **A name in Pascal case** has letters of identifiers exactly if the name can be spelled. -/
theorem forall_pascal :
    (∀ c ∈ pascal cs, Letter.isIdentifierContinue c = true) ↔ Spellable cs := by
  rw [pascal, List.forall_mem_flatMap, spellable_iff_nameWords]
  exact forall₂_congr fun word _ => forall_capitalizeWord

/-- **A name in snake case** has letters of identifiers exactly if the name can be spelled. -/
theorem forall_snake :
    (∀ c ∈ snake cs, Letter.isIdentifierContinue c = true) ↔ Spellable cs := by
  rw [spellable_iff_nameWords]
  constructor
  · intro h word hword
    rw [← forall_lowerWord]
    exact fun c hc => h c (mem_join_of_mem (List.mem_map_of_mem hword) hc)
  · intro h c hc
    rcases mem_join hc with hsep | ⟨piece, hpiece, hmem⟩
    · rw [List.mem_singleton.mp hsep]
      decide
    · obtain ⟨word, hword, rfl⟩ := List.mem_map.mp hpiece
      exact forall_lowerWord.mpr (h word hword) c hmem

/-! ### What a name begins with -/

/-- The first word of a name begins with the letter that comes first in it. -/
theorem exists_nameWords_of_leading? {c : Char} (h : leading? cs = some c) :
    ∃ rest others, nameWords cs = (c :: rest) :: others := by
  rw [leading?_eq_head?] at h
  match hwords : nameWords cs with
  | [] =>
      rw [hwords] at h
      cases h
  | first :: others =>
      have hne : first ≠ [] := ne_nil_of_mem_nameWords (hwords ▸ List.mem_cons_self)
      obtain ⟨d, rest, rfl⟩ := List.exists_cons_of_ne_nil hne
      rw [hwords] at h
      exact ⟨rest, others, by rw [← Option.some.inj h]⟩

/-- **A name in Pascal case** begins with the capital of its first letter. -/
theorem exists_pascal_of_leading? {c : Char} (h : leading? cs = some c)
    (hc : Letter.isAscii c = true) : ∃ rest, pascal cs = c.toUpper :: rest := by
  obtain ⟨rest, others, hwords⟩ := exists_nameWords_of_leading? h
  rw [pascal, hwords, List.flatMap_cons, capitalizeWord, Letter.toUpper_of_isAscii hc]
  exact ⟨_, rfl⟩

/-- **A name in snake case** begins with the small form of its first letter. -/
theorem exists_snake_of_leading? {c : Char} (h : leading? cs = some c)
    (hc : Letter.isAscii c = true) : ∃ rest, snake cs = c.toLower :: rest := by
  obtain ⟨rest, others, hwords⟩ := exists_nameWords_of_leading? h
  have hsigma : c ≠ 'Σ' := by
    rintro rfl
    exact absurd hc (by decide)
  have hfirst : lowerWord (c :: rest) = c.toLower :: lowerWord rest := by
    rw [lowerWord, Letter.toLower_of_isAscii hc]
    · rfl
    · exact fun heq _ => hsigma heq
  rw [snake, hwords, List.map_cons, hfirst]
  cases others.map lowerWord with
  | nil => exact ⟨_, rfl⟩
  | cons next pieces => exact ⟨_, by rw [join_cons_cons, List.cons_append, List.cons_append]⟩

/-- The leading letter of a text in ASCII is a letter or digit. -/
theorem isAlphanum_of_leading? {c : Char} (h : leading? cs = some c)
    (hc : Letter.isAscii c = true) : c.isAlphanum = true := by
  rw [← Letter.isWord_of_isAscii hc, isWord_of_leading? h]

/-- **A name in snake case** begins with a letter exactly if the name does. -/
theorem AsciiLed.snake (h : AsciiLed cs) :
    AsciiLed (snake cs) ∧ beginsWithLetter (Text.snake cs) = beginsWithLetter cs := by
  obtain ⟨c, hleading, hc⟩ := h
  obtain ⟨rest, hsnake⟩ := exists_snake_of_leading? hleading hc
  have hascii : Letter.isAscii c.toLower = true := by rwa [Letter.isAscii_toLower]
  have hword : Letter.isWord c.toLower = true := by
    rw [Letter.isWord_of_isAscii hascii, Letter.isAlphanum_toLower,
      isAlphanum_of_leading? hleading hc]
  have hlead : leading? (Text.snake cs) = some c.toLower := by
    rw [leading?, hsnake, List.find?_cons_of_pos hword]
  refine ⟨⟨_, hlead, hascii⟩, ?_⟩
  rw [beginsWithLetter, beginsWithLetter, hlead, hleading, Option.any_some, Option.any_some,
    Char.isAlpha_toLower_eq_isAlpha]

/-- What follows a text with a leading letter does not matter to it. -/
theorem AsciiLed.append (h : AsciiLed cs) (rest : List Char) :
    AsciiLed (cs ++ rest) ∧ beginsWithLetter (cs ++ rest) = beginsWithLetter cs := by
  obtain ⟨c, hleading, hc⟩ := h
  have hlead : leading? (cs ++ rest) = some c := by rw [leading?_append, hleading, Option.some_or]
  exact ⟨⟨c, hlead, hc⟩, by rw [beginsWithLetter, beginsWithLetter, hlead, hleading]⟩

/-- An ASCII text with a letter or digit in it has a leading one. -/
theorem asciiLed_of_ascii (h : ∀ c ∈ cs, Letter.isAscii c = true)
    (hsome : ∃ c ∈ cs, c.isAlphanum = true) : AsciiLed cs := by
  obtain ⟨c, hc, halnum⟩ := hsome
  have hisSome : (leading? cs).isSome = true := by
    rw [leading?, List.find?_isSome]
    exact ⟨c, hc, by rw [Letter.isWord_of_isAscii (h c hc), halnum]⟩
  obtain ⟨d, hd⟩ := Option.isSome_iff_exists.mp hisSome
  exact ⟨d, hd, h d (List.mem_of_find?_eq_some hd)⟩

/-- A letter or digit of ASCII begins an identifier if it is a letter. -/
theorem startsWord_of_isAlphanum {c : Char} (h : c.isAlphanum = true) :
    startsWord c = c.isAlpha := by
  have hne : (c == '_') = false := by
    refine beq_eq_false_iff_ne.mpr ?_
    rintro rfl
    exact absurd h (by decide)
  rw [startsWord, hne, Bool.false_or, Letter.isIdentifierStart,
    if_pos (Letter.isAscii_of_isAlphanum h)]

end Text

/-! ### Identifiers -/

/-- Whether a name is an identifier, or a keyword. -/
def isIdentifier (name : String) : Bool :=
  match name.toList with
  | [] => false
  | first :: rest => startsWord first && rest.all continuesWord

/-- A text that begins with a letter or digit of ASCII is an identifier if that is a letter, and
what follows may stand in identifiers. -/
theorem isIdentifier_iff_of_isAlphanum {name : String} {first : Char} {rest : List Char}
    (hname : name.toList = first :: rest) (hfirst : first.isAlphanum = true) :
    isIdentifier name = true ↔ first.isAlpha = true ∧
      ∀ c ∈ name.toList, Text.Letter.isIdentifierContinue c = true := by
  rw [isIdentifier, hname]
  dsimp only
  rw [Bool.and_eq_true, Text.startsWord_of_isAlphanum hfirst, List.all_eq_true,
    List.forall_mem_cons]
  have hcontinue := Text.Letter.isIdentifierContinue_of_isAlphanum hfirst
  exact and_congr_right fun _ => ⟨fun hrest => ⟨hcontinue, hrest⟩, And.right⟩

/-- **A name in Pascal case is an identifier**, with an ending of letters or without one, exactly
if its first letter or digit is a letter and it can be spelled. -/
theorem isIdentifier_pascal_iff {name ending : String} (h : Text.AsciiLed name.toList)
    (hending : ending.toList.all Char.isAlphanum = true) :
    isIdentifier (pascalCase name ++ ending) = true ↔
      Text.beginsWithLetter name.toList = true ∧ Text.Spellable name.toList := by
  obtain ⟨c, hleading, hc⟩ := h
  obtain ⟨rest, hpascal⟩ := Text.exists_pascal_of_leading? hleading hc
  have hlist : (pascalCase name ++ ending).toList = Text.pascal name.toList ++ ending.toList := by
    rw [String.toList_append, pascalCase, String.toList_ofList]
  have hletters : ∀ d ∈ ending.toList, Text.Letter.isIdentifierContinue d = true := fun d hd =>
    Text.Letter.isIdentifierContinue_of_isAlphanum (List.all_eq_true.mp hending d hd)
  rw [isIdentifier_iff_of_isAlphanum (by rw [hlist, hpascal]; rfl)
    (by rw [Text.Letter.isAlphanum_toUpper, Text.isAlphanum_of_leading? hleading hc]), hlist,
    List.forall_mem_append, Text.forall_pascal, Char.isAlpha_toUpper_eq_isAlpha,
    Text.beginsWithLetter, hleading, Option.any_some]
  exact and_congr_right fun _ => ⟨And.left, fun hname => ⟨hname, hletters⟩⟩

/-- **A name in snake case is an identifier** exactly if its first letter or digit is a letter and
it can be spelled. -/
theorem isIdentifier_snake_iff {name : String} (h : Text.AsciiLed name.toList) :
    isIdentifier (snakeCase name) = true ↔
      Text.beginsWithLetter name.toList = true ∧ Text.Spellable name.toList := by
  obtain ⟨c, hleading, hc⟩ := h
  obtain ⟨rest, hsnake⟩ := Text.exists_snake_of_leading? hleading hc
  have hlist : (snakeCase name).toList = Text.snake name.toList := String.toList_ofList
  rw [isIdentifier_iff_of_isAlphanum (by rw [hlist, hsnake])
    (by rw [Text.Letter.isAlphanum_toLower, Text.isAlphanum_of_leading? hleading hc]), hlist,
    Text.forall_snake, Char.isAlpha_toLower_eq_isAlpha, Text.beginsWithLetter, hleading,
    Option.any_some]

end ServiceGen
