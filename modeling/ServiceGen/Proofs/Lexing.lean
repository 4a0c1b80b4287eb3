import Mathlib.Data.List.Basic
import Mathlib.Data.List.Find
import ServiceGen.Source.Token

/-!
# Where Tokens End

How far a token goes may depend on what follows it: a word ends where no letter follows, and a
number where no digit does. Behind a semicolon or a closing bracket, however, nothing that
stands before it is decided: a piece of a text that ends before such a fence is the same
whatever stands behind the fence (`settled_piece?`).

Two kinds of readers make that up. A quoted text or a comment has an end of its own, so that
what follows it is not looked at (`Closed`). Words, numbers and suffixes go on as far as they
can, and a fence stops them like the end of the text.
-/

namespace ServiceGen.Source.Scan

/-- A character that ends every token but the quoted ones. -/
def IsFence (x : Char) : Prop :=
  x = ';' ∨ x = ']'

namespace IsFence

variable {x : Char}

/-- No word goes on with a fence. -/
theorem continuesWord (hx : IsFence x) : Scan.continuesWord x = false := by
  rcases hx with rfl | rfl <;> decide

/-- No word begins with a fence. -/
theorem startsWord (hx : IsFence x) : Scan.startsWord x = false := by
  rcases hx with rfl | rfl <;> decide

/-- A fence is no digit. -/
theorem isDigit (hx : IsFence x) : x.isDigit = false := by
  rcases hx with rfl | rfl <;> decide

/-- Nor is it one of the letters that numbers may have to another base. -/
theorem isHex (hx : IsFence x) : Scan.isHex x = false := by
  rcases hx with rfl | rfl <;> decide

/-- A fence is no white space, which would be a piece of its own. -/
theorem isSpace (hx : IsFence x) : Scan.isSpace x = false := by
  rcases hx with rfl | rfl <;> decide

/-- A fence does not make an operator with the mark before it. -/
theorem operatorMark (hx : IsFence x) : operatorMarks.contains x = false := by
  rcases hx with rfl | rfl <;> decide

/-- A fence is none of the characters that a reader looks out for. -/
theorem ne (hx : IsFence x) {c : Char} (hc : c ≠ ';' ∧ c ≠ ']') : x ≠ c := by
  rcases hx with rfl | rfl
  · exact hc.1.symm
  · exact hc.2.symm

end IsFence

/-! ### Readers with an end of their own -/

/-- A reader that does not look behind what it reads. -/
def Closed (read : List Char → Option Nat) : Prop :=
  ∀ cs n, read cs = some n → ∀ other, read (cs.take n ++ other) = some n

/-- What such a reader reads within a text stays the same whatever follows the text. -/
theorem Closed.append {read : List Char → Option Nat} (h : Closed read) {before after : List Char}
    {n : Nat} (hread : read (before ++ after) = some n) (hn : n ≤ before.length)
    (other : List Char) : read (before ++ other) = some n := by
  have hother := h _ n hread (before.drop n ++ other)
  rwa [List.take_append_of_le_length hn, ← List.append_assoc, List.take_append_drop] at hother

/-- The end of a quoted text is the first quote that is not escaped, whatever follows it. -/
theorem closed_quotedEnd {quote : Char} (hquote : quote ≠ '\\') : Closed (quotedEnd quote) := by
  intro cs n h other
  fun_induction quotedEnd quote cs generalizing n with
  | case1 => cases h
  | case2 c rest ih =>
    obtain ⟨m, hm, rfl⟩ := Option.map_eq_some_iff.mp h
    simp [quotedEnd, ih _ hm]
  | case3 c rest hc heq =>
    obtain rfl : c = quote := by simpa using heq
    obtain rfl : 1 = n := by simpa using h
    simp [quotedEnd, hquote]
  | case4 c rest hescape hne ih =>
    obtain ⟨m, hm, rfl⟩ := Option.map_eq_some_iff.mp h
    have hc : c ≠ '\\' := by
      rintro rfl
      cases rest with
      | nil => simp [quotedEnd] at hm
      | cons d rest => exact hescape d rest rfl rfl
    simp [quotedEnd, hc, hne, ih _ hm]

/-- A comment does not end where it begins. -/
theorem pos_of_blockComment {depth n : ℕ} {cs : List Char}
    (h : blockComment (depth + 1) cs = some n) : 0 < n := by
  unfold blockComment at h
  split at h <;> grind [Option.map_eq_some_iff]

/-- A comment ends where as many comments are closed as were opened, whatever follows. -/
theorem closed_blockComment (depth : ℕ) : Closed (blockComment depth) := by
  intro cs n h other
  fun_induction blockComment depth cs generalizing n with
  | case1 =>
    obtain rfl : 0 = n := by simpa using h
    simp [blockComment]
  | case2 depth rest ih =>
    obtain ⟨m, hm, rfl⟩ := Option.map_eq_some_iff.mp h
    simp [blockComment, ih _ hm]
  | case3 depth rest ih =>
    obtain ⟨m, hm, rfl⟩ := Option.map_eq_some_iff.mp h
    simp [blockComment, ih _ hm]
  | case4 depth c rest hclose hopen ih =>
    obtain ⟨m, hm, rfl⟩ := Option.map_eq_some_iff.mp h
    -- the next character is read as well, so that no new mark arises
    cases rest with
    | nil => simp [blockComment] at hm
    | cons d rest =>
      obtain ⟨k, rfl⟩ := Nat.exists_eq_succ_of_ne_zero (Nat.ne_of_gt (pos_of_blockComment hm))
      have hrest := ih _ hm
      rw [List.take_succ_cons, List.cons_append] at hrest ⊢
      rw [List.take_succ_cons, List.cons_append, blockComment.eq_4, hrest]
      · rfl
      · rintro _ rfl h
        exact hclose rest rfl (by rw [(List.cons.inj h).1])
      · rintro _ rfl h
        exact hopen rest rfl (by rw [(List.cons.inj h).1])
  | case5 => cases h

/-- A raw text ends with all its number signs, which are in the text that is looked through. -/
theorem rawEnd_bounds {hashes n : ℕ} {cs : List Char} (h : rawEnd hashes cs = some n) :
    hashes < n ∧ n ≤ cs.length := by
  fun_induction rawEnd hashes cs generalizing n with
  | case1 => cases h
  | case2 c rest hend =>
    obtain ⟨-, t, rfl⟩ : c = '"' ∧ List.replicate hashes '#' <+: rest := by simpa using hend
    obtain rfl : hashes + 1 = n := by simpa using h
    simp
  | case3 c rest hend ih =>
    obtain ⟨m, hm, rfl⟩ := Option.map_eq_some_iff.mp h
    have := ih hm
    simp only [List.length_cons]
    omega

/-- The end of a raw text is the first quote with enough number signs, whatever follows them. -/
theorem closed_rawEnd (hashes : ℕ) : Closed (rawEnd hashes) := by
  intro cs n h other
  fun_induction rawEnd hashes cs generalizing n with
  | case1 => cases h
  | case2 c rest hend =>
    obtain ⟨rfl, t, rfl⟩ : c = '"' ∧ List.replicate hashes '#' <+: rest := by simpa using hend
    obtain rfl : hashes + 1 = n := by simpa using h
    simp [rawEnd]
  | case3 c rest hend ih =>
    obtain ⟨m, hm, rfl⟩ := Option.map_eq_some_iff.mp h
    have hbounds := rawEnd_bounds hm
    -- all the hash signs that could stand here have been looked at
    have hend' : ¬(c == '"' && (List.replicate hashes '#').isPrefixOf (rest.take m ++ other)) := by
      intro hother
      obtain ⟨rfl, hlead⟩ : c = '"' ∧ List.replicate hashes '#' <+: rest.take m ++ other := by
        simpa using hother
      have hrest : List.replicate hashes '#' <+: rest := by
        refine (List.prefix_of_prefix_length_le hlead (List.prefix_append _ _) ?_).trans
          (List.take_prefix m rest)
        simp only [List.length_replicate, List.length_take]
        omega
      exact hend (by simpa using hrest)
    rw [List.take_succ_cons, List.cons_append, rawEnd, if_neg hend', ih _ hm]
    rfl

/-! ### Readers that go on as far as they can -/

section Fences

variable {x : Char} {before : List Char} (after : List Char)

/-- What is taken up to a fence is taken of the text before it. -/
theorem takeWhile_fence {p : Char → Bool} (hp : p x = false) :
    (before ++ x :: after).takeWhile p = before.takeWhile p := by
  induction before with
  | nil => simp [hp]
  | cons c before ih => by_cases hc : p c <;> simp [hc, ih]

/-- A mark without a fence in it is found before the fence or not at all. -/
theorem isPrefixOf_fence {lead : List Char} (hlead : x ∉ lead) :
    lead.isPrefixOf (before ++ x :: after) = lead.isPrefixOf before := by
  induction lead generalizing before with
  | nil => simp
  | cons c lead ih =>
    obtain ⟨hc, hlead⟩ : x ≠ c ∧ x ∉ lead := by simpa using hlead
    cases before with
    | nil => simp [List.isPrefixOf, hc.symm]
    | cons d before => simp [List.isPrefixOf, ih hlead]

/-- A question that a fence answers with no is one about the text before it. -/
theorem any_getElem?_fence {p : Char → Bool} (hp : p x = false) {i : ℕ} (hi : i ≤ before.length) :
    (before ++ x :: after)[i]?.any p = before[i]?.any p := by
  obtain hi | rfl := Nat.lt_or_eq_of_le hi
  · rw [List.getElem?_append_left hi]
  · simp [hp]

/-- A character that is looked for, and is no fence, is found before the fence or not at all. -/
theorem getElem?_fence_beq {c : Char} (hc : x ≠ c) {i : ℕ} (hi : i ≤ before.length) :
    ((before ++ x :: after)[i]? == some c) = (before[i]? == some c) := by
  obtain hi | rfl := Nat.lt_or_eq_of_le hi
  · rw [List.getElem?_append_left hi]
  · simp [hc]

/-- The suffix of a literal ends at a fence. -/
theorem suffixLength_fence (hx : IsFence x) :
    suffixLength (before ++ x :: after) = suffixLength before := by
  cases before with
  | nil => simp [suffixLength, hx.startsWord]
  | cons c before => simp [suffixLength, takeWhile_fence after hx.continuesWord]

/-- A suffix is part of the text. -/
theorem suffixLength_le (cs : List Char) : suffixLength cs ≤ cs.length := by
  cases cs with
  | nil => simp [suffixLength]
  | cons c cs =>
    have := (List.takeWhile_prefix continuesWord (l := cs)).length_le
    simp only [suffixLength, List.length_cons]
    split <;> omega

/-- A literal with its suffix ends at a fence. -/
theorem withSuffix_fence (hx : IsFence x) (valid : Bool) {size : ℕ} (hsize : size ≤ before.length) :
    withSuffix valid (before ++ x :: after) size = withSuffix valid before size := by
  have hle := suffixLength_le (before.drop size)
  rw [List.length_drop] at hle
  unfold withSuffix
  rw [List.drop_append_of_le_length hsize, suffixLength_fence after hx]
  dsimp only
  rw [List.take_append_of_le_length (by omega)]

/-- An exponent ends at a fence. -/
theorem exponentLength?_fence (hx : IsFence x) :
    exponentLength? (before ++ x :: after) = exponentLength? before := by
  have hp : (x.isDigit || x == '_') = false := by
    simp [hx.isDigit, hx.ne (c := '_') (by decide)]
  have hsign (c : Char) (hc : c ≠ ';' ∧ c ≠ ']') :=
    @getElem?_fence_beq x before after c (hx.ne hc) 0 (Nat.zero_le _)
  simp only [exponentLength?, List.head?_eq_getElem?, hsign _ (by decide : '+' ≠ ';' ∧ '+' ≠ ']'),
    hsign _ (by decide : '-' ≠ ';' ∧ '-' ≠ ']')]
  have hle : (if before[0]? == some '+' || before[0]? == some '-' then 1 else 0) ≤
      before.length := by
    cases before <;> simp
    split <;> omega
  rw [List.drop_append_of_le_length hle, takeWhile_fence after hp]

/-- A number with its exponent ends at a fence. -/
theorem withExponent?_fence (hx : IsFence x) {size : ℕ} (hsize : size ≤ before.length) :
    withExponent? (before ++ x :: after) size = withExponent? before size := by
  unfold withExponent?
  rw [getElem?_fence_beq after (hx.ne (by decide)) hsize,
    getElem?_fence_beq after (hx.ne (by decide)) hsize]
  split
  case isFalse => rfl
  case isTrue hexp =>
    have hlt : size < before.length := by
      by_contra hge
      simp [List.getElem?_eq_none (Nat.not_lt.mp hge)] at hexp
    rw [List.drop_append_of_le_length hlt, exponentLength?_fence after hx]

/-- Digits end at a fence. -/
theorem digitsLength_fence (hx : IsFence x) {p : Char → Bool} (hp : p x = false) :
    digitsLength p (before ++ x :: after) = digitsLength p before := by
  unfold digitsLength
  rw [takeWhile_fence after (by simp [hp, hx.ne (c := '_') (by decide)])]

theorem digitsLength_le (p : Char → Bool) (cs : List Char) : digitsLength p cs ≤ cs.length :=
  (List.takeWhile_prefix _).length_le

/-- A number ends at a fence. One that ends in a point there has no further digits. -/
theorem decimalLength?_fence (hx : IsFence x) :
    decimalLength? (before ++ x :: after) = decimalLength? before := by
  have hle := digitsLength_le Char.isDigit before
  unfold decimalLength?
  rw [digitsLength_fence after hx hx.isDigit]
  dsimp only
  rw [getElem?_fence_beq after (hx.ne (by decide)) hle]
  split
  case isFalse => exact withExponent?_fence after hx hle
  case isTrue hdot =>
    have hlt : digitsLength Char.isDigit before < before.length := by
      by_contra hge
      simp [List.getElem?_eq_none (Nat.not_lt.mp hge)] at hdot
    replace hlt : digitsLength Char.isDigit before + 1 ≤ before.length := hlt
    have hdigits := digitsLength_le Char.isDigit
      (before.drop (digitsLength Char.isDigit before + 1))
    rw [List.length_drop] at hdigits
    rw [any_getElem?_fence after (by simp [hx.startsWord, hx.ne (c := '.') (by decide)]) hlt,
      any_getElem?_fence after hx.isDigit hlt, List.drop_append_of_le_length hlt,
      digitsLength_fence after hx hx.isDigit, withExponent?_fence after hx (by omega)]

/-- A number to another base ends at a fence, of which the mark of the base is no part. -/
theorem basedLength?_fence (hx : IsFence x) {isDigit : Char → Bool} (hdigit : isDigit x = false)
    (hle : 2 ≤ before.length) :
    basedLength? isDigit (before ++ x :: after) = basedLength? isDigit before := by
  unfold basedLength?
  rw [List.drop_append_of_le_length hle,
    takeWhile_fence after (by simp [hdigit, hx.ne (c := '_') (by decide)])]

/-- A number of either kind ends at a fence. -/
theorem numberLength?_fence (hx : IsFence x) :
    numberLength? (before ++ x :: after) = numberLength? before := by
  have hbase (c : Char) (hc : c ≠ ';' ∧ c ≠ ']') : ['0', c].isPrefixOf (before ++ x :: after) =
      ['0', c].isPrefixOf before :=
    isPrefixOf_fence after (by simp [hx.ne hc, hx.ne (c := '0') (by decide)])
  have hle {c : Char} (h : ['0', c].isPrefixOf before) : 2 ≤ before.length :=
    (List.isPrefixOf_iff_prefix.mp h).length_le
  unfold numberLength?
  rw [hbase 'x' (by decide), hbase 'b' (by decide), hbase 'o' (by decide)]
  split
  case isTrue h => exact basedLength?_fence after hx hx.isHex (hle h)
  case isFalse =>
    split
    case isTrue h =>
      have h : 2 ≤ before.length := (Bool.or_eq_true_iff.mp h).elim hle hle
      exact basedLength?_fence after hx hx.isDigit h
    case isFalse => exact decimalLength?_fence after hx

/-- A word ends at a fence, which does not make it the mark of a literal. -/
theorem word?_fence (hx : IsFence x) : word? (before ++ x :: after) = word? before := by
  have hle : (before.takeWhile continuesWord).length ≤ before.length :=
    (List.takeWhile_prefix _).length_le
  unfold word?
  rw [takeWhile_fence after hx.continuesWord]
  dsimp only
  obtain hlt | heq := Nat.lt_or_eq_of_le hle
  · rw [List.getElem?_append_left hlt]
  · simp [heq, hx.ne (c := '#') (by decide), hx.ne (c := '"') (by decide),
      hx.ne (c := '\'') (by decide)]

end Fences

/-! ### Tokens and pieces -/

/-- A reader of something that has a length, which finds before a fence the same whatever stands
behind the fence. -/
def Settled {α : Type} (length : α → ℕ) (read : List Char → Option α) : Prop :=
  ∀ x before after a, IsFence x → read (before ++ x :: after) = some a →
    length a ≤ before.length → ∀ other, read (before ++ x :: other) = some a

variable {x : Char} {before after : List Char} {t : Token} {n : ℕ}

theorem le_withSuffix (valid : Bool) (cs : List Char) (size : ℕ) :
    size ≤ (withSuffix valid cs size).2 := by
  simp [withSuffix]

/-- A quoted text does not end where it begins. -/
theorem pos_of_quotedEnd {quote : Char} {cs : List Char} (h : quotedEnd quote cs = some n) :
    0 < n := by
  unfold quotedEnd at h
  split at h <;> grind [Option.map_eq_some_iff]

/-- A character literal that ends before a fence does so whatever stands behind the fence. -/
theorem settled_charEnd : Settled id charEnd := by
  intro x before after n hx h hle other
  have hle : n ≤ before.length := hle
  unfold charEnd at h ⊢
  cases before with
  | nil =>
    obtain rfl : n = 0 := Nat.le_zero.mp hle
    split at h
    · cases h
    · exact absurd (pos_of_quotedEnd h) (Nat.lt_irrefl 0)
  | cons c before =>
    have hone : 1 ≤ (c :: before).length := by simp
    simp only [getElem?_fence_beq _ (hx.ne (by decide : '\'' ≠ ';' ∧ '\'' ≠ ']')) hone] at h ⊢
    rw [List.cons_append, List.head?_cons] at h ⊢
    split at h
    case isTrue hsingle => rwa [if_pos hsingle]
    case isFalse hsingle =>
      rw [if_neg hsingle]
      exact (closed_quotedEnd (by decide)).append h hle (x :: other)

namespace Quoting

/-- A literal in quotes that ends before a fence is as long whatever stands behind the fence. -/
theorem settled_length? (quoting : Quoting) (lead : ℕ) :
    Settled id fun cs => quoting.length? lead cs := by
  intro x before after n hx h hle other
  have hle : n ≤ before.length := hle
  have hdrop {m : ℕ} (hm : m ≤ before.length) (other : List Char) :
      (before ++ x :: other).drop m = before.drop m ++ x :: other :=
    List.drop_append_of_le_length hm
  cases quoting with
  | text bytes =>
    obtain ⟨size, hsize, rfl⟩ := Option.map_eq_some_iff.mp h
    rw [hdrop (by omega)] at hsize
    simp only [length?]
    rw [hdrop (by omega), (closed_quotedEnd (by decide)).append hsize (by simp; omega)]
    rfl
  | raw =>
    simp only [length?] at h ⊢
    obtain ⟨hquote, h⟩ := Option.ite_none_right_eq_some.mp h
    obtain ⟨size, hsize, rfl⟩ := Option.map_eq_some_iff.mp h
    have hashes (other : List Char) : ((before ++ x :: other).drop lead).takeWhile (· == '#') =
        (before.drop lead).takeWhile (· == '#') := by
      rw [hdrop (by omega), takeWhile_fence other (by simp [hx.ne (c := '#') (by decide)])]
    rw [hashes] at hquote hsize hle ⊢
    rw [hdrop (by omega)] at hsize ⊢
    rw [getElem?_fence_beq _ (hx.ne (by decide)) (by omega)] at hquote ⊢
    rw [if_pos hquote, (closed_rawEnd _).append hsize (by simp; omega), Option.map_some, hashes]
  | char bytes =>
    simp only [length?] at h ⊢
    obtain ⟨size, hsize, hn⟩ := Option.bind_eq_some_iff.mp h
    obtain ⟨hcontent, hn⟩ := Option.ite_none_left_eq_some.mp hn
    obtain rfl := Option.some.inj hn
    have htake (other : List Char) : (before.drop (lead + 1) ++ x :: other).take (size - 1) =
        (before.drop (lead + 1)).take (size - 1) :=
      List.take_append_of_le_length (by simp; omega)
    rw [hdrop (by omega)] at hsize hcontent ⊢
    have hsize' := settled_charEnd x _ _ _ hx hsize (by simp; omega) other
    rw [htake] at hcontent
    simp only [hsize', Option.bind_eq_bind, Option.bind_some, htake, if_neg hcontent]

/-- It is the same token then. -/
theorem settled_token? (quoting : Quoting) (lead : ℕ) :
    Settled Prod.snd (quoting.token? lead) := by
  intro x before after a hx h hle other
  obtain ⟨size, hsize, rfl⟩ := Option.map_eq_some_iff.mp h
  have hle : size ≤ before.length := Nat.le_trans (le_withSuffix ..) hle
  simp only [token?, settled_length? quoting lead x _ _ _ hx hsize hle other, Option.map_some,
    withSuffix_fence _ hx _ hle, List.take_append_of_le_length hle]

end Quoting

/-- Whether an apostrophe begins a lifetime is decided before a fence. -/
theorem lifetimeLength?_fence (hx : IsFence x) (hbefore : before ≠ []) (after : List Char) :
    lifetimeLength? (before ++ x :: after) = lifetimeLength? before := by
  have hone : 1 ≤ before.length := List.length_pos_iff.mpr hbefore
  have hstart := any_getElem?_fence (x := x) (p := fun c => Scan.startsWord c || c.isDigit) after
    (by simp [hx.startsWord, hx.isDigit]) hone
  have hmark {c : Char} (hc : c ≠ ';' ∧ c ≠ ']') {i : ℕ} (hi : i ≤ before.length) :=
    getElem?_fence_beq after (hx.ne hc) hi
  unfold lifetimeLength?
  rw [hstart, any_getElem?_fence after hx.isDigit hone, hmark (c := 'r') (by decide) hone]
  obtain htwo | heq : 2 ≤ before.length ∨ before.length = 1 := by omega
  · have hsize : 2 + ((before.drop 2).takeWhile continuesWord).length ≤ before.length := by
      have := (List.takeWhile_prefix continuesWord (l := before.drop 2)).length_le
      rw [List.length_drop] at this
      omega
    rw [List.drop_append_of_le_length htwo, takeWhile_fence after hx.continuesWord]
    simp only [bne, hmark (c := '\'') (by decide) htwo, hmark (c := '#') (by decide) htwo,
      hmark (c := '\'') (by decide) hsize, hmark (c := '#') (by decide) hsize]
    -- what stands behind a hash sign is looked at only where there is one
    by_cases hhash : before[2]? = some '#'
    · have hthree : 3 ≤ before.length := (List.getElem?_eq_some_iff.mp hhash).1
      rw [any_getElem?_fence after hx.startsWord hthree, List.drop_append_of_le_length hthree,
        takeWhile_fence after hx.continuesWord]
    · simp [hhash]
  · obtain ⟨c, rfl⟩ := List.length_eq_one_iff.mp heq
    simp

/-- So a lifetime or character literal that ends before a fence is the same whatever stands behind.
-/
theorem lifetimeOrChar?_fence (hx : IsFence x) (hbefore : before ≠ [])
    (h : lifetimeOrChar? (before ++ x :: after) = some (t, n)) (hle : n ≤ before.length)
    (other : List Char) : lifetimeOrChar? (before ++ x :: other) = some (t, n) := by
  obtain ⟨size, hsize, h⟩ := Option.bind_eq_some_iff.mp h
  rw [lifetimeLength?_fence hx hbefore] at hsize
  unfold lifetimeOrChar?
  rw [lifetimeLength?_fence hx hbefore, hsize]
  cases size with
  | some size => exact h
  | none => exact Quoting.settled_token? (.char false) 0 x _ _ _ hx h hle other

/-- Numbers, words and marks that end before a fence are the same whatever stands behind it. -/
theorem settled_plainToken? (c : Char) : Settled Prod.snd (plainToken? c) := by
  intro x before after a hx h hle other
  unfold plainToken? at h ⊢
  rw [numberLength?_fence _ hx, word?_fence _ hx] at h ⊢
  split_ifs at h ⊢ with hdigit hword hmark
  · obtain ⟨size, hsize, rfl⟩ := Option.map_eq_some_iff.mp h
    have hle : size ≤ before.length := Nat.le_trans (le_withSuffix ..) hle
    rw [hsize, Option.map_some, withSuffix_fence _ hx _ hle, withSuffix_fence _ hx _ hle]
  · exact h
  · obtain rfl := Option.some.inj h
    rw [any_getElem?_fence _ hx.operatorMark hle, any_getElem?_fence _ hx.operatorMark hle]
  · exact h

/-- The marks of literals in quotes, and the first character behind them, are no fences. -/
theorem not_mem_quotings (hx : IsFence x) : ∀ entry ∈ quotings, x ∉ entry.1 := by
  rcases hx with rfl | rfl <;> decide

/-- Which kind of literal a text begins with is decided before a fence. -/
theorem find?_quotings_fence (hx : IsFence x) (after : List Char) :
    (quotings.find? fun (lead, _) => lead.isPrefixOf (before ++ x :: after)) =
      quotings.find? fun (lead, _) => lead.isPrefixOf before :=
  List.find?_congr fun entry hentry => isPrefixOf_fence after (not_mem_quotings hx entry hentry)

/-- A fence is a token of its own. -/
theorem token?_fence_cons (hx : IsFence x) : token? (x :: after) = some (.mark x false, 1) := by
  rcases hx with rfl | rfl <;> rfl

/-- **A token that ends before a fence** is the same whatever stands behind the fence. -/
theorem settled_token? : Settled Prod.snd token? := by
  intro x before after a hx h hle other
  have hbefore : before ≠ [] := by
    rintro rfl
    rw [List.nil_append, token?_fence_cons hx] at h
    obtain rfl := Option.some.inj h
    cases hle
  have hraw (after : List Char) :
      (['r', '#'].isPrefixOf (before ++ x :: after) && (before ++ x :: after)[2]?.any startsWord) =
        (['r', '#'].isPrefixOf before && before[2]?.any startsWord) := by
    have hlead : x ∉ ['r', '#'] := by
      simp [hx.ne (c := 'r') (by decide), hx.ne (c := '#') (by decide)]
    rw [isPrefixOf_fence after hlead]
    by_cases hr : ['r', '#'].isPrefixOf before
    · have htwo : 2 ≤ before.length := (List.isPrefixOf_iff_prefix.mp hr).length_le
      rw [any_getElem?_fence after hx.startsWord htwo]
    · simp [hr]
  have hhead (after : List Char) : (before ++ x :: after).head? = before.head? :=
    List.head?_append_of_ne_nil before hbefore
  unfold token? at h ⊢
  rw [hraw, find?_quotings_fence hx, hhead] at h ⊢
  split at h
  case isTrue hr =>
    obtain rfl := Option.some.inj h
    have hthree : 3 ≤ before.length := Nat.le_trans (Nat.le_add_right ..) hle
    rw [if_pos hr, List.drop_append_of_le_length hthree, List.drop_append_of_le_length hthree,
      takeWhile_fence _ hx.continuesWord, takeWhile_fence _ hx.continuesWord]
  case isFalse hr =>
    rw [if_neg hr]
    split at h
    case h_1 lead quoting _ => exact quoting.settled_token? _ x _ _ _ hx h hle other
    case h_2 =>
      split at h
      case isTrue hquote =>
        rw [if_pos hquote]
        exact lifetimeOrChar?_fence hx hbefore h hle other
      case isFalse hquote =>
        obtain ⟨c, hc, h⟩ := Option.bind_eq_some_iff.mp h
        rw [if_neg hquote, hc, Option.bind_some, settled_plainToken? c x _ _ _ hx h hle other]

/-- What is taken of a text and ends within it is the same whatever follows the text. -/
theorem takeWhile_append_of_length_le {p : Char → Bool}
    (h : ((before ++ x :: after).takeWhile p).length ≤ before.length) (other : List Char) :
    (before ++ x :: other).takeWhile p = (before ++ x :: after).takeWhile p := by
  induction before with
  | nil =>
    by_cases hp : p x
    · simp [hp] at h
    · simp [hp]
  | cons c before ih =>
    by_cases hp : p c
    · simp only [List.cons_append, List.takeWhile_cons_of_pos hp, List.length_cons] at h ⊢
      rw [ih (Nat.le_of_succ_le_succ h)]
    · simp [hp]

/-- White space or a comment that ends before a fence is the same whatever stands behind the fence.
-/
theorem settled_trivia? :
    Settled (fun t : Option Trivia => (t.map (·.text.length)).getD 0) trivia? := by
  intro x before after a hx h hle other
  have hslash : x ≠ '/' := hx.ne (by decide)
  have hstar : x ≠ '*' := hx.ne (by decide)
  have hhead (after : List Char) : (before ++ x :: after).head?.any isSpace =
      before.head?.any isSpace := by
    rw [List.head?_eq_getElem?, List.head?_eq_getElem?,
      any_getElem?_fence after hx.isSpace (Nat.zero_le _)]
  unfold trivia? at h ⊢
  rw [isPrefixOf_fence _ (by simp [hslash]), isPrefixOf_fence _ (by simp [hslash, hstar]),
    hhead] at h ⊢
  split_ifs at h ⊢ with hline hblock hblank
  · obtain rfl := Option.some.inj h
    rw [takeWhile_append_of_length_le hle]
  · have htwo : 2 ≤ before.length := (List.isPrefixOf_iff_prefix.mp hblock).length_le
    obtain ⟨size, hsize, rfl⟩ := Option.map_eq_some_iff.mp h
    have hle : size + 2 ≤ before.length := by
      have hmin : min (size + 2) (before ++ x :: after).length ≤ before.length := by
        simpa [Trivia.text] using hle
      simp only [List.length_append, List.length_cons] at hmin
      omega
    rw [List.drop_append_of_le_length htwo] at hsize ⊢
    rw [(closed_blockComment 1).append hsize (by simp; omega), Option.map_some,
      List.take_append_of_le_length hle, List.take_append_of_le_length hle]
  · obtain rfl := Option.some.inj h
    rw [takeWhile_fence _ hx.isSpace, takeWhile_fence _ hx.isSpace]
  · exact h

/-- A piece that ends before a fence is the same whatever stands behind the fence. -/
theorem settled_piece? : Settled (fun p : Piece => p.text.length) piece? := by
  intro x before after a hx h hle other
  obtain ⟨trivia, htrivia, h⟩ := Option.bind_eq_some_iff.mp h
  cases trivia with
  | some trivia =>
    obtain rfl := Option.some.inj h
    simp [piece?, settled_trivia? x _ _ _ hx htrivia hle other]
  | none =>
    obtain ⟨⟨token, size⟩, htoken, h⟩ := Option.bind_eq_some_iff.mp h
    obtain rfl := Option.some.inj h
    have hle : size ≤ before.length := by
      have hmin : min size (before ++ x :: after).length ≤ before.length := by
        simpa [Piece.text] using hle
      simp only [List.length_append, List.length_cons] at hmin
      omega
    simp [piece?, settled_trivia? x _ _ _ hx htrivia (Nat.zero_le _) other,
      settled_token? x _ _ _ hx htoken hle other, List.take_append_of_le_length hle]

end ServiceGen.Source.Scan
