import Mathlib.Data.List.DropRight
import ServiceGen.Proofs.Plural

/-!
# Last Words of Names

A plural is formed of the last word of a name. Which part of a name that is can be said without
the two scans that find it: the last word has no separator and no step from a small letter to a
capital in it, and one of them stands before it, unless it is the whole name (`IsLastWord`). Each
name has one such division (`isLastWord_splitLastWord`, `splitLastWord_of_isLastWord`), so that the
last word of a name with another ending is known without a look at the scans
(`splitLastWord_append_small`).
-/

namespace ServiceGen.Text

/-! ### Where the last word begins -/

/-- A character that separates words. -/
def isSeparator (c : Char) : Bool :=
  c == '_' || c == '-' || c == ' '

/-- What stands behind another text is its last word: there is no separator and no step from a
small letter to a capital in it, but there is one before it, unless it is all there is. -/
structure IsLastWord (stem last : List Char) : Prop where
  joined : ∀ c ∈ last, isSeparator c = false
  level : lastHump last = 0
  begins : ∀ c, stem.getLast? = some c → isSeparator c = true ∨
    ∃ d, last.head? = some d ∧ Letter.isLower c = true ∧ Letter.isUpper d = true

/-- The last step from a small letter to a capital, if there is one. -/
theorem lastHump_cases (cs : List Char) :
    lastHump cs = 0 ∨ ∃ before c d after, cs = before ++ c :: d :: after ∧
      lastHump cs = before.length + 1 ∧ Letter.isLower c = true ∧ Letter.isUpper d = true ∧
      lastHump (d :: after) = 0 := by
  induction cs with
  | nil => exact Or.inl rfl
  | cons c rest ih =>
      cases rest with
      | nil => exact Or.inl rfl
      | cons d rest =>
          rcases ih with hflat | ⟨before, x, y, after, heq, hhump, hstep⟩
          · rw [lastHump, hflat]
            by_cases h : (Letter.isLower c && Letter.isUpper d) = true
            · obtain ⟨hlower, hupper⟩ := Bool.and_eq_true_iff.mp h
              exact Or.inr ⟨[], c, d, rest, rfl, if_pos h, hlower, hupper, hflat⟩
            · exact Or.inl (if_neg h)
          · rw [lastHump, hhump]
            exact Or.inr ⟨c :: before, x, y, after, by rw [heq]; rfl, rfl, hstep⟩

/-- A step with none behind it is the last one. -/
theorem lastHump_append {c d : Char} {after : List Char} (hlower : Letter.isLower c = true)
    (hupper : Letter.isUpper d = true) (hafter : lastHump (d :: after) = 0)
    (before : List Char) : lastHump (before ++ c :: d :: after) = before.length + 1 := by
  induction before with
  | nil => simp [lastHump, hafter, hlower, hupper]
  | cons b before ih =>
      cases before with
      | nil =>
          rw [List.nil_append] at ih
          rw [List.cons_append, List.nil_append, lastHump, ih]
          rfl
      | cons b' before =>
          rw [List.cons_append] at ih
          rw [List.cons_append, List.cons_append, lastHump, ih]
          rfl

/-- What is cut off at the last separator has none, and one stands before it. -/
theorem isSeparator_cutAtSeparator (cs : List Char) :
    (∀ c ∈ (cutAtSeparator cs).2, isSeparator c = false) ∧
      ∀ c, (cutAtSeparator cs).1.getLast? = some c → isSeparator c = true := by
  have htail : (cutAtSeparator cs).2 = cs.rtakeWhile (!isSeparator ·) := rfl
  have hbefore : (cutAtSeparator cs).1 = cs.rdropWhile (!isSeparator ·) := by
    have hcs := cutAtSeparator_append cs
    rw [htail] at hcs
    exact List.append_cancel_right (hcs.trans List.rdropWhile_append_rtakeWhile.symm)
  constructor
  · intro c hc
    rw [htail, List.rtakeWhile, List.mem_reverse] at hc
    simpa using List.mem_takeWhile_imp hc
  · intro c hc
    rw [hbefore, List.rdropWhile, List.getLast?_reverse] at hc
    have hhead := List.head?_dropWhile_not (!isSeparator ·) cs.reverse
    rw [hc] at hhead
    simpa using hhead

/-- What has no separator does not change where the last one is. -/
theorem cutAtSeparator_append_joined (cs : List Char) {more : List Char}
    (h : ∀ c ∈ more, isSeparator c = false) :
    cutAtSeparator (cs ++ more) = ((cutAtSeparator cs).1, (cutAtSeparator cs).2 ++ more) := by
  have hmore : ∀ c ∈ more.reverse, (!isSeparator c) = true := by
    intro c hc
    rw [h c (List.mem_reverse.mp hc), Bool.not_false]
  have htail : (cutAtSeparator (cs ++ more)).2 = (cutAtSeparator cs).2 ++ more := by
    change (cs ++ more).rtakeWhile (!isSeparator ·) = cs.rtakeWhile (!isSeparator ·) ++ more
    rw [List.rtakeWhile, List.reverse_append, List.takeWhile_append_of_pos hmore,
      List.reverse_append, List.reverse_reverse, List.rtakeWhile]
  have hall := cutAtSeparator_append (cs ++ more)
  rw [htail, ← List.append_assoc] at hall
  have hcs := (List.append_cancel_right hall).trans (cutAtSeparator_append cs).symm
  exact Prod.ext (List.append_cancel_right hcs) htail

/-- **What is split off is the last word.** -/
theorem isLastWord_splitLastWord (cs : List Char) :
    IsLastWord (splitLastWord cs).1 (splitLastWord cs).2 := by
  obtain ⟨hjoined, hbegins⟩ := isSeparator_cutAtSeparator cs
  rw [splitLastWord]
  generalize cutAtSeparator cs = cut at hjoined hbegins
  obtain ⟨before, tail⟩ := cut
  dsimp only at hjoined hbegins ⊢
  rcases lastHump_cases tail with hflat | ⟨front, c, d, after, rfl, hhump, hlower, hupper, hflat⟩
  · rw [hflat, List.take_zero, List.append_nil, List.drop_zero]
    exact ⟨hjoined, hflat, fun c hc => Or.inl (hbegins c hc)⟩
  · have hsplit : front ++ c :: d :: after = (front ++ [c]) ++ d :: after := by simp
    have hlength : (front ++ [c]).length = front.length + 1 := by simp
    rw [hhump, hsplit, ← hlength, List.take_left, List.drop_left]
    refine ⟨fun x hx => hjoined x (by rw [hsplit]; exact List.mem_append_right _ hx), hflat, ?_⟩
    intro x hx
    rw [← List.append_assoc, List.getLast?_concat] at hx
    obtain rfl := Option.some.inj hx
    exact Or.inr ⟨d, rfl, hlower, hupper⟩

/-- **A last word is what is split off.** -/
theorem splitLastWord_of_isLastWord {stem last : List Char} (h : IsLastWord stem last) :
    splitLastWord (stem ++ last) = (stem, last) := by
  obtain ⟨hjoined, -⟩ := isSeparator_cutAtSeparator stem
  have hstem := cutAtSeparator_append stem
  rw [splitLastWord, cutAtSeparator_append_joined stem h.joined]
  have hbegins := h.begins
  generalize cutAtSeparator stem = cut at hjoined hstem
  obtain ⟨before, tail⟩ := cut
  dsimp only at hjoined hstem ⊢
  subst hstem
  -- What stands between the last separator and the last word ends before a step.
  have hhump : lastHump (tail ++ last) = tail.length := by
    rcases List.eq_nil_or_concat tail with rfl | ⟨front, c, rfl⟩
    · exact h.level
    · rw [List.concat_eq_append] at hjoined hbegins ⊢
      rcases hbegins c (by rw [← List.append_assoc, List.getLast?_concat]) with hsep |
        ⟨d, hd, hlower, hupper⟩
      · rw [hjoined c (by simp)] at hsep
        cases hsep
      · obtain ⟨rest, rfl⟩ := List.head?_eq_some_iff.mp hd
        rw [List.append_assoc, List.singleton_append, lastHump_append hlower hupper h.level,
          List.length_append, List.length_singleton]
  rw [hhump, List.take_left, List.drop_left]

/-! ### Endings -/

/-- Where no capital follows there is no further step. -/
theorem lastHump_append_small (cs : List Char) {ending : List Char}
    (h : ∀ c ∈ ending, Letter.isUpper c = false) : lastHump (cs ++ ending) = lastHump cs := by
  have hflat : lastHump ending = 0 := by
    rcases lastHump_cases ending with hflat | ⟨before, c, d, after, rfl, -, -, hupper, -⟩
    · exact hflat
    · rw [h d (by simp)] at hupper
      cases hupper
  induction cs with
  | nil => exact hflat
  | cons c rest ih =>
      cases rest with
      | nil =>
          cases ending with
          | nil => rfl
          | cons e ending =>
              change lastHump (c :: e :: ending) = 0
              rw [lastHump, hflat, h e List.mem_cons_self, Bool.and_false]
              rfl
      | cons d rest =>
          rw [List.cons_append] at ih
          rw [List.cons_append, List.cons_append, lastHump, ih, lastHump]

/-- A small letter of ASCII is no capital and no separator, and is its own lower-case form. -/
theorem of_isLower {c : Char} (h : c.isLower = true) :
    Letter.isUpper c = false ∧ isSeparator c = false ∧ Letter.toLower c = [c] := by
  have halnum : c.isAlphanum = true := by simp [Char.isAlphanum, Char.isAlpha, h]
  have hascii := Letter.isAscii_of_isAlphanum halnum
  have hup : c.isUpper = false := by simpa using Char.not_isUpper_of_isLower h
  refine ⟨by rw [Letter.isUpper, if_pos hascii, hup], ?_, ?_⟩
  · rw [isSeparator, Bool.or_eq_false_iff, Bool.or_eq_false_iff, beq_eq_false_iff_ne,
      beq_eq_false_iff_ne, beq_eq_false_iff_ne]
    refine ⟨⟨?_, ?_⟩, ?_⟩ <;> rintro rfl <;> cases h
  · rw [Letter.toLower_of_isAscii hascii, Letter.toLower_eq_self hup]

/-- **An ending in small letters goes to the last word.** -/
theorem splitLastWord_append_small (cs : List Char) {ending : List Char}
    (h : ∀ c ∈ ending, c.isLower = true) :
    splitLastWord (cs ++ ending) =
      ((splitLastWord cs).1, (splitLastWord cs).2 ++ ending) := by
  have hword := isLastWord_splitLastWord cs
  have hcs := splitLastWord_append cs
  generalize splitLastWord cs = cut at hword hcs
  obtain ⟨stem, last⟩ := cut
  dsimp only at hword hcs ⊢
  rw [← hcs, List.append_assoc]
  refine splitLastWord_of_isLastWord ⟨?_, ?_, fun c hc => ?_⟩
  · exact List.forall_mem_append.mpr ⟨hword.joined, fun c hc => (of_isLower (h c hc)).2.1⟩
  · rw [lastHump_append_small last fun c hc => (of_isLower (h c hc)).1, hword.level]
  · refine (hword.begins c hc).imp_right ?_
    rintro ⟨d, hd, hstep⟩
    exact ⟨d, by rw [List.head?_append, hd]; rfl, hstep⟩

end ServiceGen.Text
