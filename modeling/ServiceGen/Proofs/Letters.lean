import Mathlib
import ServiceGen.Text.Letter

/-!
# Letters and Their Case

The classes and case maps of `ServiceGen.Text.Letter` decide the ASCII characters by rule and
all others by tables. This module derives what the rest of the theory needs of them, so that
no other proof looks into a table:

* white space never stands in a word (`isWord_eq_false_of_isBlank`);
* a lower-case form has no ASCII capital in it (`isUpper_eq_false_of_mem_toLower`);
* changing the case of a letter or number brings no ASCII punctuation about
  (`isAlphanum_of_mem_toLower`, `isAlphanum_of_mem_toUpper`).

Each rests on one property of the tables that is checked entry by entry.
-/

namespace ServiceGen.Text.Letter

/-! ### ASCII characters -/

/-- The ASCII characters are the first 128. -/
theorem isAscii_iff {c : Char} : isAscii c = true ↔ c.toNat < 128 := by
  simp [isAscii]

/-- The letters and digits of ASCII are ASCII characters. -/
theorem isAscii_of_isAlphanum {c : Char} (h : c.isAlphanum = true) : isAscii c = true := by
  rw [isAscii_iff]
  simp only [Char.isAlphanum, Char.isAlpha, Char.isUpper, Char.isLower, Char.isDigit,
    UInt32.le_iff_toNat_le, Bool.or_eq_true, Bool.and_eq_true, decide_eq_true_eq] at h
  have hval : c.val.toNat = c.toNat := rfl
  rcases h with (⟨-, h⟩ | ⟨-, h⟩) | ⟨-, h⟩ <;> simp at h <;> omega

/-- A capital of ASCII is an ASCII character. -/
theorem isAscii_of_isUpper {c : Char} (h : c.isUpper = true) : isAscii c = true :=
  isAscii_of_isAlphanum (by simp [Char.isAlphanum, Char.isAlpha, h])

/-- Among the ASCII characters, words are made of letters and digits. -/
theorem isWord_of_isAscii {c : Char} (h : isAscii c = true) : isWord c = c.isAlphanum := by
  simp [isWord, h]

/-- The lower-case form of an ASCII character is one character. -/
theorem toLower_of_isAscii {c : Char} (h : isAscii c = true) : toLower c = [c.toLower] := by
  simp [toLower, h]

/-- The upper-case form of an ASCII character is one character. -/
theorem toUpper_of_isAscii {c : Char} (h : isAscii c = true) : toUpper c = [c.toUpper] := by
  simp [toUpper, h]

/-- Lower case keeps characters inside or outside of ASCII. -/
@[simp] theorem isAscii_toLower (c : Char) : isAscii c.toLower = isAscii c := by
  by_cases h : c.isUpper = true
  · have hlow : c.toLower.isAlphanum = true := by
      simp [Char.isAlphanum, Char.isAlpha, h]
    rw [isAscii_of_isAlphanum hlow, isAscii_of_isUpper h]
  · rw [Char.toLower_eq_of_not_isUpper h]

/-- Lower case keeps letters and digits. -/
@[simp] theorem isAlphanum_toLower (c : Char) : c.toLower.isAlphanum = c.isAlphanum := by
  by_cases h : c.isUpper = true
  · simp [Char.isAlphanum, Char.isAlpha, h]
  · rw [Char.toLower_eq_of_not_isUpper h]

/-- Upper case keeps letters and digits. -/
@[simp] theorem isAlphanum_toUpper (c : Char) : c.toUpper.isAlphanum = c.isAlphanum := by
  rw [← isAlphanum_toLower c.toUpper, Char.toLower_toUpper_eq_toLower, isAlphanum_toLower]

/-- A character that is no capital is its own lower-case form. -/
theorem toLower_eq_self {c : Char} (h : c.isUpper = false) : c.toLower = c :=
  Char.toLower_eq_of_not_isUpper (by simp [h])

/-! ### White space -/

/-- Two lists of ranges have no code point in common. -/
def apart (as bs : List (Nat × Nat)) : Bool :=
  as.all fun a => bs.all fun b => a.2 < b.1 || b.2 < a.1

/-- A character in one of two lists of ranges that are apart is not in the other. -/
theorem inRanges_eq_false_of_apart {as bs : List (Nat × Nat)} {c : Char}
    (h : apart as bs = true) (hc : inRanges as c = true) : inRanges bs c = false := by
  obtain ⟨a, ha, hca⟩ := List.any_eq_true.mp hc
  refine List.any_eq_false.mpr fun b hb hcb => ?_
  have hab := List.all_eq_true.mp (List.all_eq_true.mp h a ha) b hb
  simp only [Bool.and_eq_true, Bool.or_eq_true, decide_eq_true_eq] at hca hcb hab
  omega

/-- White space never stands in a word. -/
theorem isWord_eq_false_of_isBlank {c : Char} (h : isBlank c = true) : isWord c = false := by
  by_cases ha : isAscii c = true
  · rw [isWord_of_isAscii ha]
    simp only [isBlank, ha, if_true, Bool.or_eq_true, Bool.and_eq_true, beq_iff_eq,
      decide_eq_true_eq] at h
    rcases h with rfl | ⟨-, h⟩
    · decide
    · simp only [Char.isAlphanum, Char.isAlpha, Char.isUpper, Char.isLower, Char.isDigit,
        UInt32.le_iff_toNat_le]
      have hval : c.val.toNat = c.toNat := rfl
      simp
      omega
  · simp only [isBlank, isWord, ha] at h ⊢
    exact inRanges_eq_false_of_apart (by decide +kernel) h

/-! ### Case maps -/

/-- The character of a code point satisfies `p`, if it is one of ASCII. -/
def leadsInto (p : Char → Bool) (code : Nat) : Bool :=
  !isAscii (Char.ofNat code) || p (Char.ofNat code)

/-- The images of a list of runs satisfy `p`, as far as they are characters of ASCII. Only
a run of one code point may have such an image. -/
def runsLeadInto (p : Char → Bool) (runs : List (Nat × Nat × Nat × Nat)) : Bool :=
  runs.all fun (first, last, _, image) =>
    if first = last then leadsInto p image
    else 0x80 ≤ image && (image + last - first < 0xD800
      || (0xDFFF < image && image + last - first < 0x110000))

/-- A code point past ASCII that is a character leads out of ASCII. -/
theorem leadsInto_of_le {p : Char → Bool} {code : Nat} (h : 0x80 ≤ code)
    (hv : code.isValidChar) : leadsInto p code = true := by
  have hnat : (Char.ofNat code).toNat = code := by rw [Char.toNat_ofNat, if_pos hv]
  have ha : isAscii (Char.ofNat code) = false := by
    rw [isAscii, hnat]
    simpa using h
  simp [leadsInto, ha]

/-- What is checked run by run holds of every image. -/
theorem leadsInto_of_imageIn {p : Char → Bool} {runs : List (Nat × Nat × Nat × Nat)}
    {code image : Nat} (h : runsLeadInto p runs = true) (hi : imageIn runs code = some image) :
    leadsInto p image = true := by
  obtain ⟨⟨first, last, step, base⟩, hmem, hrun⟩ := List.exists_of_findSome?_eq_some hi
  have hcheck := List.all_eq_true.mp h _ hmem
  simp only [Option.ite_none_right_eq_some, Bool.and_eq_true, decide_eq_true_eq,
    Option.some.injEq] at hrun
  obtain ⟨⟨⟨hfirst, hlast⟩, -⟩, rfl⟩ := hrun
  by_cases hone : first = last
  · subst hone
    obtain rfl : code = first := by omega
    simpa using hcheck
  · simp only [hone, if_false, Bool.and_eq_true, Bool.or_eq_true, decide_eq_true_eq] at hcheck
    refine leadsInto_of_le (by omega) ?_
    rcases hcheck.2 with hlow | ⟨hhigh, hmax⟩
    · exact Or.inl (by omega)
    · exact Or.inr ⟨by omega, by omega⟩

/-- The lower-case tables lead to small letters only, as far as they lead into ASCII. -/
theorem lowerTables_leadInto :
    runsLeadInto Char.isLower lowerImages = true
      ∧ lowerExpansions.all (fun e => e.2.all (leadsInto Char.isLower)) = true := by
  decide

/-- The upper-case tables lead to capitals only, as far as they lead into ASCII. -/
theorem upperTables_leadInto :
    runsLeadInto Char.isUpper upperImages = true
      ∧ upperExpansions.all (fun e => e.2.all (leadsInto Char.isUpper)) = true := by
  decide

/-- What a character outside ASCII is changed into satisfies `p`, as far as it is ASCII, if
both tables lead into `p`. -/
theorem of_mem_changed {p : Char → Bool} {runs : List (Nat × Nat × Nat × Nat)}
    {expansions : List (Nat × List Nat)} {c d : Char}
    (hruns : runsLeadInto p runs = true)
    (hexp : expansions.all (fun e => e.2.all (leadsInto p)) = true)
    (hd : isAscii d = false) (hc : isAscii c = true)
    (h : c ∈ match expansions.lookup d.toNat with
      | some codes => codes.map Char.ofNat
      | none => [((imageIn runs d.toNat).map Char.ofNat).getD d]) :
    p c = true := by
  have hinto : ∀ code, leadsInto p code = true → c = Char.ofNat code → p c = true := by
    rintro code hcode rfl
    simpa [leadsInto, hc] using hcode
  split at h
  · rename_i codes hlookup
    obtain ⟨code, hcode, rfl⟩ := List.mem_map.mp h
    have hmem : (d.toNat, codes) ∈ expansions := by
      obtain ⟨before, after, rfl, -⟩ := List.lookup_eq_some_iff.mp hlookup
      exact List.mem_append_right before List.mem_cons_self
    exact hinto code (List.all_eq_true.mp (List.all_eq_true.mp hexp _ hmem) code hcode) rfl
  · rw [List.mem_singleton] at h
    cases himage : imageIn runs d.toNat with
    | none =>
        rw [himage, Option.map_none, Option.getD_none] at h
        rw [h, hd] at hc
        cases hc
    | some image =>
        rw [himage, Option.map_some, Option.getD_some] at h
        exact hinto image (leadsInto_of_imageIn hruns himage) h

/-- A lower-case form has no ASCII capital in it. -/
theorem isUpper_eq_false_of_mem_toLower {c d : Char} (h : c ∈ toLower d) :
    c.isUpper = false := by
  by_cases hd : isAscii d = true
  · rw [toLower_of_isAscii hd, List.mem_singleton] at h
    rw [h, Char.isUpper_toLower_eq_false]
  · by_contra hc
    rw [Bool.not_eq_false] at hc
    simp only [toLower, hd] at h
    have hlow := of_mem_changed lowerTables_leadInto.1 lowerTables_leadInto.2
      (by simpa using hd) (isAscii_of_isUpper hc) h
    exact Char.not_isUpper_of_isLower hlow hc

/-- An upper-case form has no small letter of ASCII in it. -/
theorem isLower_eq_false_of_mem_toUpper {c d : Char} (h : c ∈ toUpper d) :
    c.isLower = false := by
  by_cases hd : isAscii d = true
  · rw [toUpper_of_isAscii hd, List.mem_singleton] at h
    rw [h, Char.isLower_toUpper_eq_false]
  · by_contra hc
    rw [Bool.not_eq_false] at hc
    have hascii : isAscii c = true :=
      isAscii_of_isAlphanum (by simp [Char.isAlphanum, Char.isAlpha, hc])
    simp only [toUpper, hd] at h
    have hup := of_mem_changed upperTables_leadInto.1 upperTables_leadInto.2 (by simpa using hd)
      hascii h
    exact Char.not_isUpper_of_isLower hc hup

/-- The lower-case form of a letter or number has no ASCII punctuation in it. -/
theorem isAlphanum_of_mem_toLower {c d : Char} (hd : isWord d = true) (h : c ∈ toLower d)
    (hc : isAscii c = true) : c.isAlphanum = true := by
  by_cases had : isAscii d = true
  · rw [toLower_of_isAscii had, List.mem_singleton] at h
    rw [h, isAlphanum_toLower, ← isWord_of_isAscii had, hd]
  · simp only [toLower, had] at h
    have hlow := of_mem_changed lowerTables_leadInto.1 lowerTables_leadInto.2
      (by simpa using had) hc h
    simp [Char.isAlphanum, Char.isAlpha, hlow]

/-- The upper-case form of a letter or number has no ASCII punctuation in it. -/
theorem isAlphanum_of_mem_toUpper {c d : Char} (hd : isWord d = true) (h : c ∈ toUpper d)
    (hc : isAscii c = true) : c.isAlphanum = true := by
  by_cases had : isAscii d = true
  · rw [toUpper_of_isAscii had, List.mem_singleton] at h
    rw [h, isAlphanum_toUpper, ← isWord_of_isAscii had, hd]
  · simp only [toUpper, had] at h
    have hup := of_mem_changed upperTables_leadInto.1 upperTables_leadInto.2
      (by simpa using had) hc h
    simp [Char.isAlphanum, Char.isAlpha, hup]

/-! ### Case of whole texts -/

/-- What a text in lower case consists of: lower-case forms of its characters, and the two
small sigmas. -/
theorem mem_lowerFrom {before cs : List Char} {c : Char} (h : c ∈ lowerFrom before cs) :
    c = 'ς' ∨ c = 'σ' ∨ ∃ d ∈ cs, c ∈ toLower d := by
  induction cs generalizing before with
  | nil => cases h
  | cons d rest ih =>
      rw [lowerFrom, List.mem_append] at h
      rcases h with h | h
      · split at h
        · split at h
          · exact Or.inl (List.mem_singleton.mp h)
          · exact Or.inr (Or.inl (List.mem_singleton.mp h))
        · exact Or.inr (Or.inr ⟨d, List.mem_cons_self, h⟩)
      · rcases ih h with h | h | ⟨e, he, hc⟩
        · exact Or.inl h
        · exact Or.inr (Or.inl h)
        · exact Or.inr (Or.inr ⟨e, List.mem_cons_of_mem d he, hc⟩)

/-- A text without capitals does not change to lower case. -/
theorem map_toLower_eq_self {cs : List Char} (h : ∀ c ∈ cs, c.isUpper = false) :
    cs.map Char.toLower = cs := by
  have hid : ∀ c ∈ cs, c.toLower = id c := fun c hc => toLower_eq_self (h c hc)
  rw [List.map_congr_left hid, List.map_id]

/-- A text in lower case has no ASCII capital in it. -/
theorem isUpper_eq_false_of_mem_lowerText {cs : List Char} {c : Char}
    (h : c ∈ lowerText cs) : c.isUpper = false := by
  rcases mem_lowerFrom h with rfl | rfl | ⟨d, -, hc⟩
  · decide
  · decide
  · exact isUpper_eq_false_of_mem_toLower hc

/-- An ASCII text changes to lower case character by character. -/
theorem lowerText_of_ascii {cs : List Char} (h : ∀ c ∈ cs, isAscii c = true) :
    lowerText cs = cs.map Char.toLower := by
  have hfrom : ∀ before, lowerFrom before cs = cs.map Char.toLower := by
    induction cs with
    | nil => intro before; rfl
    | cons c rest ih =>
        intro before
        have hc : (c == 'Σ') = false := by
          refine beq_eq_false_iff_ne.mpr fun heq => ?_
          have hsigma := h c List.mem_cons_self
          rw [heq] at hsigma
          exact absurd hsigma (by decide)
        rw [lowerFrom, hc, ih fun d hd => h d (List.mem_cons_of_mem c hd),
          toLower_of_isAscii (h c List.mem_cons_self)]
        rfl
  exact hfrom []

end ServiceGen.Text.Letter
