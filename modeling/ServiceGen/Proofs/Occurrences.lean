import Mathlib.Data.List.Infix
import ServiceGen.Text.Slice

/-!
# Occurrences in Texts

`indexOf?` finds the first occurrence of a text in another (`indexOf?_eq_none_iff`), and passes
over whatever no occurrence begins in (`indexOf?_append`). A text without a certain character
occurs only on either side of that character (`infix_append_cons_iff`), so its occurrences there add
up (`occurrences_append_cons`).
-/

namespace ServiceGen.Text

variable {needle : List Char}

/-! ### One step of the search -/

/-- Only the empty text is found in the empty text. -/
theorem indexOf?_nil_eq_some_iff {start : Nat} :
    indexOf? needle [] = some start ↔ needle = [] ∧ start = 0 := by
  cases needle with
  | nil => exact ⟨fun h => ⟨rfl, (Option.some.inj h).symm⟩, fun h => h.2 ▸ rfl⟩
  | cons c needle =>
      exact ⟨fun h => (Option.some_ne_none start h.symm).elim,
        fun h => absurd h.1 (List.cons_ne_nil c needle)⟩

/-- What occurs at the beginning is found there. -/
theorem indexOf?_eq_some_zero {cs : List Char} (h : needle <+: cs) :
    indexOf? needle cs = some 0 := by
  cases cs with
  | nil => exact indexOf?_nil_eq_some_iff.mpr ⟨List.prefix_nil.mp h, rfl⟩
  | cons c rest => exact if_pos (List.isPrefixOf_iff_prefix.mpr h)

/-- What does not occur at the beginning is looked for behind the first character. -/
theorem indexOf?_cons_eq_map {c : Char} {rest : List Char} (h : ¬ needle <+: c :: rest) :
    indexOf? needle (c :: rest) = (indexOf? needle rest).map (· + 1) :=
  if_neg (mt List.isPrefixOf_iff_prefix.mp h)

/-- What is found occurs at the beginning, or only behind the first character. -/
theorem of_indexOf?_cons {c : Char} {rest : List Char} {start : Nat}
    (h : indexOf? needle (c :: rest) = some start) :
    needle <+: c :: rest ∧ start = 0 ∨
      ¬ needle <+: c :: rest ∧ ∃ i, indexOf? needle rest = some i ∧ start = i + 1 := by
  by_cases hhere : needle <+: c :: rest
  · rw [indexOf?_eq_some_zero hhere] at h
    exact Or.inl ⟨hhere, (Option.some.inj h).symm⟩
  · rw [indexOf?_cons_eq_map hhere] at h
    obtain ⟨i, hi, rfl⟩ := Option.map_eq_some_iff.mp h
    exact Or.inr ⟨hhere, i, hi, rfl⟩

/-! ### The place that is found -/

/-- A needle has no index in a text that does not hold it. -/
theorem indexOf?_eq_none_iff {cs : List Char} : indexOf? needle cs = none ↔ ¬ needle <:+: cs := by
  induction cs with
  | nil =>
      rw [Option.eq_none_iff_forall_ne_some, List.infix_nil]
      simp [indexOf?_nil_eq_some_iff]
  | cons c rest ih =>
      rw [List.infix_cons_iff]
      by_cases hhere : needle <+: c :: rest
      · simp [indexOf?_eq_some_zero hhere, hhere]
      · simp [indexOf?_cons_eq_map hhere, hhere, ih]

/-- A text contains another if that occurs in it. -/
theorem contains_iff {cs : List Char} : contains needle cs = true ↔ needle <:+: cs := by
  rw [contains, Option.isSome_iff_ne_none, Ne, indexOf?_eq_none_iff, not_not]

/-- The first occurrence begins behind a text in which none begins. -/
theorem indexOf?_append {before : List Char} (rest : List Char)
    (h : ∀ start, start ≠ [] → start <:+ before → ¬ needle <+: start ++ rest) :
    indexOf? needle (before ++ rest) = (indexOf? needle rest).map (before.length + ·) := by
  induction before with
  | nil => simp
  | cons c before ih =>
      have hhere : ¬ needle <+: c :: (before ++ rest) :=
        h (c :: before) (List.cons_ne_nil c before) List.suffix_rfl
      rw [List.cons_append, indexOf?_cons_eq_map hhere,
        ih fun start hne hstart => h start hne (hstart.trans (List.suffix_cons c before)),
        Option.map_map]
      congr 1
      funext i
      simp only [Function.comp_apply, List.length_cons]
      omega

/-- What is found stands where it is found. -/
theorem prefix_drop_of_indexOf? {cs : List Char} {start : Nat}
    (h : indexOf? needle cs = some start) : needle <+: cs.drop start := by
  induction cs generalizing start with
  | nil =>
      obtain ⟨rfl, rfl⟩ := indexOf?_nil_eq_some_iff.mp h
      exact List.nil_prefix
  | cons c rest ih =>
      obtain ⟨hhere, rfl⟩ | ⟨-, i, hi, rfl⟩ := of_indexOf?_cons h
      · exact hhere
      · exact ih hi

/-- What is found begins within the text. -/
theorem le_length_of_indexOf? {cs : List Char} {start : Nat} (h : indexOf? needle cs = some start) :
    start ≤ cs.length := by
  induction cs generalizing start with
  | nil => exact Nat.le_of_eq (indexOf?_nil_eq_some_iff.mp h).2
  | cons c rest ih =>
      obtain ⟨-, rfl⟩ | ⟨-, i, hi, rfl⟩ := of_indexOf?_cons h
      · exact Nat.zero_le _
      · exact Nat.succ_le_succ (ih hi)

/-- What is found first does not occur before that. -/
theorem not_infix_take_of_indexOf? {cs : List Char} {start : Nat} (hne : needle ≠ [])
    (h : indexOf? needle cs = some start) : ¬ needle <:+: cs.take start := by
  induction cs generalizing start with
  | nil =>
      rw [List.take_nil, List.infix_nil]
      exact hne
  | cons c rest ih =>
      obtain ⟨-, rfl⟩ | ⟨hnot, i, hi, rfl⟩ := of_indexOf?_cons h
      · rw [List.take_zero, List.infix_nil]
        exact hne
      · rw [List.take_succ_cons, List.infix_cons_iff]
        rintro (hhere | hlater)
        · refine hnot (hhere.trans ?_)
          exact List.cons_prefix_cons.mpr ⟨rfl, List.take_prefix i rest⟩
        · exact ih hi hlater

/-- What has a certain character not in it occurs on either side of that character. -/
theorem infix_append_cons_iff {c : Char} (hc : c ∉ needle) {before rest : List Char} :
    needle <:+: before ++ c :: rest ↔ needle <:+: before ∨ needle <:+: rest := by
  constructor
  · intro h
    rcases List.infix_append_iff.mp h with h | h | ⟨first, second, rfl, hfirst, hsecond⟩
    · exact Or.inl h
    · rcases List.infix_cons_iff.mp h with h | h
      · rcases List.prefix_cons_iff.mp h with rfl | ⟨more, rfl, -⟩
        · exact Or.inl List.nil_infix
        · exact absurd List.mem_cons_self hc
      · exact Or.inr h
    · rcases List.prefix_cons_iff.mp hsecond with rfl | ⟨more, rfl, -⟩
      · exact Or.inl (by rw [List.append_nil]; exact hfirst.isInfix)
      · exact absurd (by simp) hc
  · rintro (h | h)
    · exact h.trans (List.prefix_append _ _).isInfix
    · exact h.trans (((List.suffix_cons c rest).trans (List.suffix_append _ _)).isInfix)

/-- What is found first depends on nothing behind it. -/
theorem indexOf?_append_self {before rest : List Char}
    (h : indexOf? needle (before ++ (needle ++ rest)) = some before.length) (other : List Char) :
    indexOf? needle (before ++ (needle ++ other)) = some before.length := by
  induction before with
  | nil => exact indexOf?_eq_some_zero (List.prefix_append needle other)
  | cons c before ih =>
      rw [List.cons_append] at h ⊢
      obtain ⟨-, hzero⟩ | ⟨hnot, n, hn, hlength⟩ := of_indexOf?_cons h
      · exact absurd hzero (Nat.succ_ne_zero before.length)
      · obtain rfl : before.length = n := Nat.succ.inj hlength
        have hother : ¬ needle <+: c :: (before ++ (needle ++ other)) := by
          -- It would end before the other text begins, and so stand in the given text as well.
          intro hhere
          have hlength : needle.length ≤ (c :: (before ++ needle)).length := by simp; omega
          have hshort : needle <+: c :: (before ++ needle) := by
            refine List.prefix_of_prefix_length_le hhere ?_ hlength
            exact ⟨other, by simp⟩
          exact hnot (hshort.trans ⟨rest, by simp⟩)
        rw [indexOf?_cons_eq_map hother, ih hn]
        rfl

/-! ### Counting -/

/-- How often a text occurs in another: the number of places at which it begins. -/
def occurrences (needle : List Char) : List Char → Nat
  | [] => 0
  | c :: rest => (if needle.isPrefixOf (c :: rest) then 1 else 0) + occurrences needle rest

/-- A text occurs if it occurs at least once. -/
theorem occurrences_eq_zero_iff (hne : needle ≠ []) {cs : List Char} :
    occurrences needle cs = 0 ↔ ¬ needle <:+: cs := by
  induction cs with
  | nil => simp [occurrences, hne]
  | cons c rest ih =>
      rw [occurrences, Nat.add_eq_zero_iff, ih, List.infix_cons_iff, not_or,
        ← List.isPrefixOf_iff_prefix]
      simp

/-- A text occurs in itself once. -/
theorem occurrences_self (hne : needle ≠ []) : occurrences needle needle = 1 := by
  cases hneedle : needle with
  | nil => exact absurd hneedle hne
  | cons c rest =>
      have hrest : occurrences (c :: rest) rest = 0 := by
        rw [occurrences_eq_zero_iff (List.cons_ne_nil c rest)]
        intro hinfix
        exact absurd hinfix.length_le (Nat.not_succ_le_self _)
      rw [occurrences, hrest, if_pos (by simp)]

/-- What has a certain character not in it begins before that character only if it ends there. -/
theorem prefix_append_cons_iff {c : Char} (hc : c ∉ needle) {before rest : List Char} :
    needle <+: before ++ c :: rest ↔ needle <+: before := by
  constructor
  · intro h
    by_cases hlength : needle.length ≤ before.length
    · exact List.prefix_of_prefix_length_le h (List.prefix_append _ _) hlength
    · have hlonger : (before ++ [c]).length ≤ needle.length := by
        rw [List.length_append, List.length_singleton]
        omega
      have hback : before ++ [c] <+: needle :=
        List.prefix_of_prefix_length_le ⟨rest, by simp⟩ h hlonger
      exact absurd (hback.subset (by simp)) hc
  · exact fun h => h.trans (List.prefix_append _ _)

/-- **Occurrences add up** on either side of a character that does not occur in what is counted. -/
theorem occurrences_append_cons {c : Char} (hne : needle ≠ []) (hc : c ∉ needle)
    (before rest : List Char) :
    occurrences needle (before ++ c :: rest) =
      occurrences needle before + occurrences needle rest := by
  induction before with
  | nil =>
      have hno : ¬ needle.isPrefixOf (c :: rest) = true := by
        have hiff : needle <+: [] ++ c :: rest ↔ needle <+: [] := prefix_append_cons_iff hc
        rw [List.isPrefixOf_iff_prefix]
        exact fun h => hne (List.prefix_nil.mp (hiff.mp h))
      rw [List.nil_append, occurrences.eq_2, if_neg hno, occurrences]
  | cons d before ih =>
      have hiff : needle.isPrefixOf (d :: (before ++ c :: rest)) =
          needle.isPrefixOf (d :: before) := by
        have hends : needle <+: (d :: before) ++ c :: rest ↔ needle <+: d :: before :=
          prefix_append_cons_iff hc
        rwa [Bool.eq_iff_iff, List.isPrefixOf_iff_prefix, List.isPrefixOf_iff_prefix]
      rw [List.cons_append, occurrences, occurrences, ih, hiff, Nat.add_assoc]

/-- **Occurrences of what ends with a character add up** on either side of that character, where
it counts as part of what is before it. -/
theorem occurrences_append_end {c : Char} (hc : c ∉ needle) (before rest : List Char) :
    occurrences (needle ++ [c]) (before ++ c :: rest) =
      occurrences (needle ++ [c]) (before ++ [c]) + occurrences (needle ++ [c]) rest := by
  have hends : ∀ start : List Char,
      needle ++ [c] <+: start ++ c :: rest ↔ needle ++ [c] <+: start ++ [c] := by
    intro start
    constructor
    · intro h
      by_cases hlength : (needle ++ [c]).length ≤ (start ++ [c]).length
      · exact List.prefix_of_prefix_length_le h ⟨rest, by simp⟩ hlength
      · have hshorter : (start ++ [c]).length ≤ needle.length := by
          simp only [List.length_append, List.length_singleton] at hlength ⊢
          omega
        have hback : start ++ [c] <+: needle :=
          List.prefix_of_prefix_length_le (⟨rest, by simp⟩ : _ <+: start ++ c :: rest)
            ((List.prefix_append needle [c]).trans h) hshorter
        exact absurd (hback.subset (by simp)) hc
    · exact fun h => h.trans ⟨rest, by simp⟩
  induction before with
  | nil =>
      have hiff := hends []
      rw [List.nil_append, List.nil_append, ← List.isPrefixOf_iff_prefix,
        ← List.isPrefixOf_iff_prefix, ← Bool.eq_iff_iff] at hiff
      rw [List.nil_append, List.nil_append, occurrences, occurrences, occurrences, hiff,
        Nat.add_zero]
  | cons d before ih =>
      have hiff := hends (d :: before)
      rw [List.cons_append, List.cons_append, ← List.isPrefixOf_iff_prefix,
        ← List.isPrefixOf_iff_prefix, ← Bool.eq_iff_iff] at hiff
      rw [List.cons_append, List.cons_append, occurrences, occurrences, ih, hiff, Nat.add_assoc]

end ServiceGen.Text
