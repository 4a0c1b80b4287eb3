import Mathlib.Algebra.Order.Field.Rat
import Mathlib.Data.Nat.Cast.Order.Field
import Mathlib.Tactic.Linarith
import Mathlib.Tactic.Ring
import ServiceGen.Number.Binary64

/-!
# Rounding

What is known of a 64-bit number that stands for another one. Its integer part is less than one
away from its value (`exists_integer_part`). A natural number of more than 53 binary digits is
rounded to a multiple of a power of two (`clampToInt_ofNat`), so it stays as it is exactly if only
zeros follow those digits (`roundQuotient_mul_eq_iff`).
-/

namespace ServiceGen

namespace Binary64

/-! ### Values -/

/-- The value of a finite number. -/
def value : Binary64 → ℚ
  | .finite negative m e => signed negative m * 2 ^ e
  | _ => 0

/-- A scaled number is a quotient with the same value. -/
theorem scaled_spec (m : Nat) (e : Int) :
    0 < (scaled m e).2 ∧ ((scaled m e).1 : ℚ) / (scaled m e).2 = m * 2 ^ e := by
  cases e with
  | ofNat k =>
      simp [scaled]
  | negSucc k =>
      simp [scaled, zpow_negSucc, div_eq_mul_inv]

/-- A quotient lies between its integer part and the next integer. -/
theorem natDiv_bounds {n d : Nat} (h : 0 < d) :
    ((n / d : Nat) : ℚ) ≤ n / d ∧ (n / d : ℚ) < (n / d : Nat) + 1 := by
  refine ⟨Nat.cast_div_le, ?_⟩
  rw [div_lt_iff₀ (by exact_mod_cast h), mul_comm]
  exact_mod_cast Nat.lt_mul_div_succ n h

/-- **The integer part of a number** is less than one away from it. -/
theorem exists_integer_part {x : Binary64} (h : x.isFinite = true) (low high : Int) :
    ∃ t : Int, x.clampToInt low high = max low (min high t) ∧
      (t : ℚ) - 1 < x.value ∧ x.value < t + 1 := by
  cases x with
  | finite negative m e =>
      obtain ⟨hpos, hvalue⟩ := scaled_spec m e
      obtain ⟨hfloor, hceil⟩ := natDiv_bounds (n := (scaled m e).1) hpos
      refine ⟨signed negative ((scaled m e).1 / (scaled m e).2), rfl, ?_⟩
      rw [hvalue] at hfloor hceil
      generalize (scaled m e).1 / (scaled m e).2 = q at hfloor hceil
      cases negative with
      | false =>
          simp only [signed, value, Bool.false_eq_true, if_false, Int.cast_natCast]
          constructor <;> linarith
      | true =>
          simp only [signed, value, if_true, Int.cast_neg, Int.cast_natCast, neg_mul]
          constructor <;> linarith
  | infinite negative => cases h
  | nan => cases h

/-! ### Natural numbers -/

theorem roundQuotient_one (n : Nat) : roundQuotient n 1 = n := by
  simp [roundQuotient, Nat.mod_one]

/-- A whole number is cut off at the bounds of the type. -/
theorem clampToInt_shifted (m k : Nat) (low high : Int) :
    (finite false m (Int.ofNat k)).clampToInt low high = max low (min high (m * 2 ^ k : Nat)) := by
  simp [clampToInt, scaled, signed]

/-- A natural number that is rounded to a multiple of a power of two. -/
theorem clampToInt_roundAt_ofNat (n : Nat) {k : Nat} (hk : k ≤ 900) (low high : Int) :
    (roundAt false n 1 (Int.ofNat k)).clampToInt low high =
      max low (min high (roundQuotient n (2 ^ k) * 2 ^ k : Nat)) := by
  have hsmall : ∀ {j : Nat}, j ≤ 901 → ¬ (Int.ofNat j > maxExponent) := by
    intro j hj
    rw [maxExponent]
    simp
    omega
  rw [roundAt]
  simp only [one_mul, Nat.pow_eq]
  by_cases hcarry : roundQuotient n (2 ^ k) = 2 ^ 53
  · have hnext : Int.ofNat k + 1 = Int.ofNat (k + 1) := rfl
    rw [hcarry, beq_self_eq_true, if_pos rfl]
    simp only [hnext]
    rw [if_neg (hsmall (by omega)), clampToInt_shifted]
    have hshift : 2 ^ 52 * 2 ^ (k + 1) = 2 ^ 53 * 2 ^ k := by ring
    rw [hshift]
  · rw [beq_false_of_ne hcarry]
    simp only [Bool.false_eq_true, if_false]
    rw [if_neg (hsmall (by omega)), clampToInt_shifted]

/-- A natural number that fits. -/
theorem clampToInt_roundAt_negSucc (n : Nat) {k : Nat} (hfits : n * 2 ^ (k + 1) < 2 ^ 53)
    (low high : Int) :
    (roundAt false n 1 (Int.negSucc k)).clampToInt low high = max low (min high n) := by
  rw [roundAt]
  simp only [Nat.pow_eq, roundQuotient_one]
  rw [beq_false_of_ne hfits.ne]
  simp only [Bool.false_eq_true, if_false]
  rw [if_neg (by rw [maxExponent]; omega)]
  simp [clampToInt, scaled, signed]

/-- The exponent that a natural number is rounded at. -/
theorem ofNat_eq_roundAt {n : Nat} (hpos : n ≠ 0) :
    ofNat n = roundAt false n 1 (n.log2 - 52) := by
  have hself := Nat.log2_self_le hpos
  have hlow : max ((n.log2 : Int) - (Nat.log2 1 : Nat) - 53) minExponent = n.log2 - 53 := by
    have hone : Nat.log2 1 = 0 := by decide
    rw [hone, minExponent]
    omega
  rw [ofNat, ofRatio, beq_false_of_ne hpos]
  simp only [Bool.false_eq_true, if_false]
  rw [hlow, if_neg]
  · congr 1
    omega
  · rw [Nat.not_lt, Nat.pow_eq]
    by_cases hwide : 53 ≤ n.log2
    · have hexp : (n.log2 : Int) - 53 = Int.ofNat (n.log2 - 53) := by
        rw [Int.ofNat_eq_natCast]
        omega
      rw [hexp]
      simp only [Nat.pow_eq, Nat.one_mul]
      rw [Nat.le_div_iff_mul_le (Nat.two_pow_pos _), ← Nat.pow_add, Nat.add_sub_cancel' hwide]
      exact hself
    · have hexp : (n.log2 : Int) - 53 = Int.negSucc (52 - n.log2) := by
        rw [Int.negSucc_eq]
        omega
      rw [hexp]
      simp only [Nat.pow_eq, Nat.div_one]
      calc 2 ^ 53 = 2 ^ n.log2 * 2 ^ (52 - n.log2 + 1) := by
            rw [← Nat.pow_add]
            congr 1
            omega
        _ ≤ n * 2 ^ (52 - n.log2 + 1) := Nat.mul_le_mul_right _ hself

/-- The number nearest to a positive natural number below `2 ^ 64`, clamped: with more than 53
binary digits it is rounded to 53 of them. -/
theorem clampToInt_ofNat {n : Nat} (hpos : n ≠ 0) (hlt : n < 2 ^ 64) (low high : Int) :
    (ofNat n).clampToInt low high =
      max low (min high (roundQuotient n (2 ^ (n.log2 - 52)) * 2 ^ (n.log2 - 52) : Nat)) := by
  have hlog : n.log2 < 64 := (Nat.log2_lt hpos).mpr hlt
  have hself := Nat.log2_self_le hpos
  have hnext := Nat.lt_log2_self (n := n)
  rw [ofNat_eq_roundAt hpos]
  by_cases hwide : 52 ≤ n.log2
  · have hexp : (n.log2 : Int) - 52 = Int.ofNat (n.log2 - 52) := by
      rw [Int.ofNat_eq_natCast]
      omega
    rw [hexp]
    exact clampToInt_roundAt_ofNat n (by omega) low high
  · have hexp : (n.log2 : Int) - 52 = Int.negSucc (51 - n.log2) := by
      rw [Int.negSucc_eq]
      omega
    have hzero : n.log2 - 52 = 0 := by omega
    have hfits : n * 2 ^ (51 - n.log2 + 1) < 2 ^ 53 := by
      calc n * 2 ^ (51 - n.log2 + 1) < 2 ^ (n.log2 + 1) * 2 ^ (51 - n.log2 + 1) :=
            Nat.mul_lt_mul_of_pos_right hnext (Nat.two_pow_pos _)
        _ = 2 ^ 53 := by
            rw [← Nat.pow_add]
            congr 1
            omega
    rw [hexp, clampToInt_roundAt_negSucc n hfits, hzero, Nat.pow_zero, roundQuotient_one,
      Nat.mul_one]

/-- Zero is within all bounds that it lies between. -/
theorem clampToInt_ofNat_zero (low high : Int) :
    (ofNat 0).clampToInt low high = max low (min high 0) := by
  obtain ⟨t, ht, hlow, hhigh⟩ := exists_integer_part (x := ofNat 0) rfl low high
  have hvalue : (ofNat 0).value = 0 := by simp [ofNat, ofRatio, zero, value, signed]
  rw [hvalue] at hlow hhigh
  have hbelow : (t : ℚ) < 1 := by linarith
  have habove : (-1 : ℚ) < t := by linarith
  have hzero : t = 0 := by
    have hlt : t < 1 := by exact_mod_cast hbelow
    have hgt : -1 < t := by exact_mod_cast habove
    omega
  rw [ht, hzero]

/-- A natural number that a 64-bit number is: at most 53 binary digits of it are followed by zeros
only. -/
def Exact (n : Nat) : Prop :=
  ∃ m k, m < 2 ^ 53 ∧ n = m * 2 ^ k

/-- A number is not changed by the rounding exactly if it has 53 binary digits at most. -/
theorem roundQuotient_mul_eq_iff {n : Nat} (hpos : n ≠ 0) :
    roundQuotient n (2 ^ (n.log2 - 52)) * 2 ^ (n.log2 - 52) = n ↔ Exact n := by
  have hself := Nat.log2_self_le hpos
  have hnext := Nat.lt_log2_self (n := n)
  have hunit : 0 < 2 ^ (n.log2 - 52) := Nat.two_pow_pos _
  have hdvd : roundQuotient n (2 ^ (n.log2 - 52)) * 2 ^ (n.log2 - 52) = n ↔
      2 ^ (n.log2 - 52) ∣ n := by
    constructor
    · exact fun heq => ⟨_, heq.symm.trans (Nat.mul_comm _ _)⟩
    · intro hdvd
      have hround : roundQuotient n (2 ^ (n.log2 - 52)) = n / 2 ^ (n.log2 - 52) := by
        simp [roundQuotient, Nat.mod_eq_zero_of_dvd hdvd]
      rw [hround, Nat.div_mul_cancel hdvd]
  rw [hdvd]
  constructor
  · intro hdvd
    refine ⟨n / 2 ^ (n.log2 - 52), n.log2 - 52, ?_, (Nat.div_mul_cancel hdvd).symm⟩
    rw [Nat.div_lt_iff_lt_mul hunit, ← Nat.pow_add]
    exact hnext.trans_le (Nat.pow_le_pow_right (by decide) (by omega))
  · rintro ⟨m, k, hm, heq⟩
    have hk : n.log2 - 52 ≤ k := by
      by_contra hlt
      have hbound : n < 2 ^ 53 * 2 ^ k := by
        rw [heq]
        exact Nat.mul_lt_mul_of_pos_right hm (Nat.two_pow_pos k)
      have hpow : 2 ^ 53 * 2 ^ k ≤ 2 ^ n.log2 := by
        rw [← Nat.pow_add]
        exact Nat.pow_le_pow_right (by decide) (by omega)
      omega
    have hdvd := (Nat.pow_dvd_pow 2 hk).mul_left m
    rwa [← heq] at hdvd

end Binary64

end ServiceGen
