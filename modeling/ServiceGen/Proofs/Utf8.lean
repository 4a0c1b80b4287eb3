import Mathlib.Data.List.Basic
import ServiceGen.Text.Utf8

/-!
# Texts in UTF-8

Reading the bytes of a text gives the text (`decode_encode`). Which case of the reader applies is
decided by the first two bytes, and the bounds on these (`startsTwo_iff` and those after it) are
disjoint. So there is one lemma for each length of a sequence, whatever follows, and a character
is written with the length whose bounds its code point keeps to (`decode_utf8EncodeChar`).
-/

namespace ServiceGen.Text.Utf8

variable {a b c d : UInt8}

/-! ### Bounds of the first bytes -/

/-- The bytes that continue a character. -/
theorem isContinuation_iff : isContinuation b = true ↔ 128 ≤ b.toNat ∧ b.toNat ≤ 191 := by
  simp [isContinuation, UInt8.le_iff_toNat_le]

/-- The bytes that begin a character of two. Less than 194 would be one of a single byte. -/
theorem startsTwo_iff : startsTwo a = true ↔ 194 ≤ a.toNat ∧ a.toNat ≤ 223 := by
  simp [startsTwo, UInt8.le_iff_toNat_le]

/-- The bytes that begin a character of three. After 224 it could be shorter, and after 237 it would
be a surrogate. -/
theorem startsThree_iff : startsThree a b = true ↔
    224 ≤ a.toNat ∧ a.toNat ≤ 239 ∧ 128 ≤ b.toNat ∧ b.toNat ≤ 191 ∧
      (a.toNat = 224 → 160 ≤ b.toNat) ∧ (a.toNat = 237 → b.toNat ≤ 159) := by
  simp only [startsThree, isContinuation, UInt8.le_iff_toNat_le, beq_iff_eq, ← UInt8.toNat_inj,
    UInt8.reduceToNat]
  split_ifs <;> simp only [Bool.and_eq_true, decide_eq_true_eq] <;> omega

/-- The bytes that begin a character of four. After 240 it could be shorter, and after 244 it would
be past the last code point. -/
theorem startsFour_iff : startsFour a b = true ↔
    240 ≤ a.toNat ∧ a.toNat ≤ 244 ∧ 128 ≤ b.toNat ∧ b.toNat ≤ 191 ∧
      (a.toNat = 240 → 144 ≤ b.toNat) ∧ (a.toNat = 244 → b.toNat ≤ 143) := by
  simp only [startsFour, isContinuation, UInt8.le_iff_toNat_le, beq_iff_eq, ← UInt8.toNat_inj,
    UInt8.reduceToNat]
  split_ifs <;> simp only [Bool.and_eq_true, decide_eq_true_eq] <;> omega

/-! ### Sequences of bytes -/

/-- An ASCII character is a byte by itself. -/
theorem decode_one (ha : a.toNat ≤ 127) (rest : List UInt8) :
    decode (a :: rest) = some (Char.ofNat a.toNat) :: decode rest := by
  have ha : a < 0x80 := UInt8.lt_iff_toNat_lt.mpr (Nat.lt_succ_of_le ha)
  match rest with
  | [] => simp [decode, ha]
  | [_] => simp [decode, ha]
  | [_, _] => simp [decode, ha]
  | _ :: _ :: _ :: _ => simp [decode, ha]

/-- A byte past ASCII begins a longer character, or is invalid. -/
theorem not_lt_of_continued (ha : 128 ≤ a.toNat) : ¬ a < 0x80 := by
  rw [UInt8.lt_iff_toNat_lt]
  exact Nat.not_lt.mpr ha

/-- A character of two bytes has 11 bits of them. -/
theorem decode_two (ha : startsTwo a = true) (hb : isContinuation b = true) (rest : List UInt8) :
    decode (a :: b :: rest) =
      some (Char.ofNat (a.toNat % 0x20 * 0x40 + payload b)) :: decode rest := by
  have hone := not_lt_of_continued (a := a) (by have := startsTwo_iff.mp ha; omega)
  match rest with
  | [] => simp [decode, hone, ha, hb]
  | [_] => simp [decode, hone, ha, hb]
  | _ :: _ :: _ => simp [decode, hone, ha, hb]

/-- A character of three bytes has 16 bits of them. -/
theorem decode_three (hab : startsThree a b = true) (hc : isContinuation c = true)
    (rest : List UInt8) : decode (a :: b :: c :: rest) =
      some (Char.ofNat ((a.toNat % 0x10 * 0x40 + payload b) * 0x40 + payload c)) ::
        decode rest := by
  have hbounds := startsThree_iff.mp hab
  have hone := not_lt_of_continued (a := a) (by omega)
  have htwo : startsTwo a = false := by
    rw [Bool.eq_false_iff, ne_eq, startsTwo_iff]
    omega
  match rest with
  | [] => simp [decode, hone, htwo, hab, hc]
  | _ :: _ => simp [decode, hone, htwo, hab, hc]

/-- A character of four bytes has 21 bits of them. -/
theorem decode_four (hab : startsFour a b = true) (hc : isContinuation c = true)
    (hd : isContinuation d = true) (rest : List UInt8) : decode (a :: b :: c :: d :: rest) =
      some (Char.ofNat
        (((a.toNat % 0x08 * 0x40 + payload b) * 0x40 + payload c) * 0x40 + payload d)) ::
          decode rest := by
  have hbounds := startsFour_iff.mp hab
  have hone := not_lt_of_continued (a := a) (by omega)
  have htwo : startsTwo a = false := by
    rw [Bool.eq_false_iff, ne_eq, startsTwo_iff]
    omega
  have hthree : startsThree a b = false := by
    rw [Bool.eq_false_iff, ne_eq, startsThree_iff]
    omega
  simp [decode, hone, htwo, hthree, hab, hc, hd]

/-! ### Characters -/

/-- A byte with six bits of a code point continues a sequence. -/
theorem isContinuation_ofNat (n : ℕ) : isContinuation (UInt8.ofNat (n % 64 + 128)) = true := by
  rw [isContinuation_iff, UInt8.toNat_ofNat']
  omega

/-- The byte that continues a character has the last six bits. -/
theorem payload_ofNat (n : ℕ) : payload (UInt8.ofNat (n % 64 + 128)) = n % 64 := by
  rw [payload, UInt8.toNat_ofNat']
  omega

/-- **The bytes of a character** are read as this character. -/
theorem decode_utf8EncodeChar (c : Char) (rest : List UInt8) :
    decode (String.utf8EncodeChar c ++ rest) = some c :: decode rest := by
  have hbounds : c.toNat < 0xD800 ∨ 0xDFFF < c.toNat ∧ c.toNat < 0x110000 := c.valid
  have hchar := Char.ofNat_toNat c
  generalize hn : c.toNat = n at hbounds hchar
  have hfirst : ∀ m, m < 256 → (UInt8.ofNat m).toNat = m := fun m hm => by
    rw [UInt8.toNat_ofNat', Nat.mod_eq_of_lt hm]
  rw [String.utf8EncodeChar, show c.val.toNat = n from hn]
  split_ifs with hone htwo hthree
  · rw [List.singleton_append, decode_one (by rw [hfirst n (by omega)]; exact hone),
      hfirst n (by omega), hchar]
  · have ha := hfirst (n / 64 % 32 + 192) (by omega)
    rw [List.cons_append, List.singleton_append, decode_two (by rw [startsTwo_iff, ha]; omega)
      (isContinuation_ofNat n), ha, payload_ofNat]
    have hsum : (n / 64 % 32 + 192) % 0x20 * 0x40 + n % 64 = n := by omega
    rw [hsum, hchar]
  · have ha := hfirst (n / 4096 % 16 + 224) (by omega)
    have hb := hfirst (n / 64 % 64 + 128) (by omega)
    rw [List.cons_append, List.cons_append, List.singleton_append,
      decode_three (by rw [startsThree_iff, ha, hb]; omega) (isContinuation_ofNat n), ha,
      payload_ofNat, payload_ofNat]
    have hsum : ((n / 4096 % 16 + 224) % 0x10 * 0x40 + n / 64 % 64) * 0x40 + n % 64 = n := by
      omega
    rw [hsum, hchar]
  · have ha := hfirst (n / 262144 % 8 + 240) (by omega)
    have hb := hfirst (n / 4096 % 64 + 128) (by omega)
    rw [List.cons_append, List.cons_append, List.cons_append, List.singleton_append,
      decode_four (by rw [startsFour_iff, ha, hb]; omega) (isContinuation_ofNat _)
        (isContinuation_ofNat n), ha, payload_ofNat, payload_ofNat, payload_ofNat]
    have hsum : (((n / 262144 % 8 + 240) % 0x08 * 0x40 + n / 4096 % 64) * 0x40 + n / 64 % 64) *
        0x40 + n % 64 = n := by
      omega
    rw [hsum, hchar]

/-- **A text is read from its bytes.** -/
theorem decode_encode (cs : List Char) : decode (encode cs) = cs.map some := by
  induction cs with
  | nil => rfl
  | cons c cs ih =>
      rw [encode, List.flatMap_cons, decode_utf8EncodeChar, ← encode, ih, List.map_cons]

/-- **A text is got back from its bytes**, without a replacement character for anything. -/
theorem decodeLossy_encode (cs : List Char) : decodeLossy (encode cs) = cs := by
  rw [decodeLossy, decode_encode, List.map_map]
  exact List.map_id cs

end ServiceGen.Text.Utf8
