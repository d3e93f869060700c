import FeatureFlags.Number.Basic
import Mathlib.Tactic.Ring
import Mathlib.Data.Nat.Log

namespace FeatureFlags.Rounding

theorem quotient_mul_self (n : Nat) {den : Nat} (hden : 0 < den) : quotient (n * den) den = n := by
  unfold quotient
  simp [Nat.mul_div_cancel n hden, hden]

theorem div_le_quotient (num den : Nat) : num / den ≤ quotient num den := by
  unfold quotient
  dsimp only
  split
  · omega
  · split <;> omega

theorem excess_le_log (num den : Nat) : excess num den ≤ (num / den).log2 := by
  unfold excess precision
  omega

theorem excess_mul_le {significand exponent den : Nat} (hsmall : significand < 2 ^ precision)
    (hden : 0 < den) : excess (significand * 2 ^ exponent * den) den ≤ exponent := by
  unfold excess
  rw [Nat.mul_div_cancel _ hden]
  by_cases hzero : significand * 2 ^ exponent = 0
  · have hprecision : Nat.log2 0 + 1 - precision = 0 := rfl
    rw [hzero, hprecision]
    exact Nat.zero_le _
  · have hlog : (significand * 2 ^ exponent).log2 < precision + exponent := by
      rw [Nat.log2_lt hzero, Nat.pow_add]
      exact Nat.mul_lt_mul_of_pos_right hsmall (Nat.two_pow_pos exponent)
    omega

theorem nearest_mul_self {units den : Nat} (h : Representable units) (hden : 0 < den) :
    nearest (units * den) den = units := by
  obtain ⟨significand, exponent, hsmall, rfl⟩ := h
  simp only [Nat.pow_eq] at hsmall ⊢
  -- The bits to drop are among the zeros behind the significand.
  have hle : excess (significand * 2 ^ exponent * den) den ≤ exponent := excess_mul_le hsmall hden
  obtain ⟨zeros, hzeros⟩ := Nat.exists_eq_add_of_le hle
  unfold nearest
  dsimp only
  simp only [Nat.pow_eq]
  generalize excess (significand * 2 ^ exponent * den) den = e at hle hzeros ⊢
  have hnum : significand * 2 ^ exponent * den = significand * 2 ^ zeros * (den * 2 ^ e) := by
    rw [hzeros]
    ring
  rw [hnum, quotient_mul_self _ (Nat.mul_pos hden (Nat.two_pow_pos e)), hzeros]
  ring

theorem pow_le_nearest {k num den : Nat} (hden : 0 < den) (h : 2 ^ k * den ≤ num) :
    2 ^ k ≤ nearest num den := by
  have hle : 2 ^ k ≤ num / den := (Nat.le_div_iff_mul_le hden).mpr h
  have hne : num / den ≠ 0 := by
    have := Nat.two_pow_pos k
    omega
  have hlog := excess_le_log num den
  have hk : k ≤ (num / den).log2 := (Nat.le_log2 hne).mpr hle
  unfold nearest
  dsimp only
  simp only [Nat.pow_eq]
  generalize excess num den = e at hlog ⊢
  calc
    2 ^ k ≤ 2 ^ (num / den).log2 := Nat.pow_le_pow_right (by omega) hk
    _ = 2 ^ ((num / den).log2 - e) * 2 ^ e := by rw [← Nat.pow_add, Nat.sub_add_cancel hlog]
    _ ≤ num / den / 2 ^ e * 2 ^ e := by
      apply Nat.mul_le_mul_right
      rw [Nat.le_div_iff_mul_le (Nat.two_pow_pos e), ← Nat.pow_add, Nat.sub_add_cancel hlog]
      exact Nat.log2_self_le hne
    _ = num / (den * 2 ^ e) * 2 ^ e := by rw [Nat.div_div_eq_div_mul]
    _ ≤ quotient num (den * 2 ^ e) * 2 ^ e := Nat.mul_le_mul_right _ (div_le_quotient _ _)

theorem nearest_eq_zero {num den : Nat} (h : 2 * num < den) : nearest num den = 0 := by
  have hdiv : num / den = 0 := Nat.div_eq_of_lt (by omega)
  have hexcess : excess num den = 0 := by
    unfold excess
    rw [hdiv]
    rfl
  have hmod : num % den = num := Nat.mod_eq_of_lt (by omega)
  unfold nearest quotient
  simp [hexcess, hdiv, hmod, h]

end FeatureFlags.Rounding
