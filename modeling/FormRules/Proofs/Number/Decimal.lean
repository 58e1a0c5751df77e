import FormRules.Number.Decimal
import FormRules.Proofs.Number.Binary64
import Mathlib.Algebra.Order.Ring.Abs

/-!
# Decimals that are whole numbers

A decimal denotes a rational number.  Where that is a whole number of at most `2 ^ 53`, rounding
gives this number, however the decimal is written.
-/

namespace FormRules.Decimal

open FormRules.Binary64

/-- The number that a decimal denotes. -/
def value (d : Decimal) : ℚ := (if d.negative then -1 else 1) * (d.significand * 10 ^ d.exponent)

theorem abs_value (d : Decimal) : |d.value| = d.significand * 10 ^ d.exponent := by
  have hmagnitude : (0 : ℚ) ≤ d.significand * 10 ^ d.exponent :=
    mul_nonneg (Nat.cast_nonneg _) (zpow_nonneg (by norm_num) _)
  rw [value, abs_mul, abs_of_nonneg hmagnitude]
  cases d.negative <;> simp

theorem natAbs_eq_of_value {d : Decimal} {n : ℤ} (h : d.value = n) :
    (n.natAbs : ℚ) = d.significand * 10 ^ d.exponent := by
  rw [Nat.cast_natAbs, Int.cast_abs, ← h, abs_value]

/-- With a significand that is not zero, no power of ten beyond the number fits. -/
theorem le_log2_of_pow_le {m e : ℕ} (hm : m ≠ 0) (h : 10 ^ e ≤ m) : e ≤ Nat.log2 m := by
  rw [Nat.le_log2 hm]
  exact Nat.le_trans (Nat.pow_le_pow_left (by decide) e) h

theorem code_of_value {d : Decimal} {n : ℤ} (h : d.value = n) {code : ℕ} (hn : n.natAbs ≤ 2 ^ 53)
    (hcode : code < infinityCode) (hunits : units code = n.natAbs * unitsPerOne) :
    d.toBinary64.code = code := by
  have hvalue := natAbs_eq_of_value h
  have hle : code ≤ infinityCode := Nat.le_of_lt hcode
  simp only [toBinary64]
  by_cases hzero : d.significand = 0
  · have hnone : n.natAbs = 0 := by
      rw [hzero] at hvalue
      simpa using hvalue
    have hunits0 : units code = units 0 := by
      rw [hunits, hnone, Nat.zero_mul, units_of_lt (by decide)]
    rw [if_pos hzero]
    exact (units_strictMono.injective hunits0).symm
  · rw [if_neg hzero]
    by_cases hexponent : 0 ≤ d.exponent
    · obtain ⟨e, he⟩ := Int.eq_ofNat_of_zero_le hexponent
      have hnat : n.natAbs = d.significand * 10 ^ e := by
        rw [he] at hvalue
        exact_mod_cast hvalue
      have hsmall : ¬400 < e := by
        intro hlarge
        have hle : 10 ^ e ≤ n.natAbs := by
          rw [hnat]
          exact Nat.le_mul_of_pos_left _ (by omega)
        have hpower : 2 ^ 54 ≤ 10 ^ e :=
          Nat.le_trans (Nat.pow_le_pow_right (by decide) (by omega))
            (Nat.pow_le_pow_left (by decide) e)
        omega
      rw [if_pos hexponent, he, Int.toNat_natCast, if_neg hsmall]
      exact nearestCode_of_units Nat.one_pos hle (by rw [hunits, hnat, Nat.mul_one])
    · obtain ⟨e, he⟩ := Int.eq_ofNat_of_zero_le (a := -d.exponent) (by omega)
      have hminus : d.exponent = -(e : ℤ) := by omega
      have hnat : d.significand = n.natAbs * 10 ^ e := by
        have hpower : (10 : ℚ) ^ e ≠ 0 := pow_ne_zero _ (by norm_num)
        rw [hminus, zpow_neg, zpow_natCast, eq_mul_inv_iff_mul_eq₀ hpower] at hvalue
        exact_mod_cast hvalue.symm
      have hsmall : ¬Nat.log2 d.significand + 400 < e := by
        have hpos : 0 < n.natAbs := by
          apply Nat.pos_of_ne_zero
          intro hnone
          exact hzero (by rw [hnat, hnone, Nat.zero_mul])
        have hle : 10 ^ e ≤ d.significand := by
          rw [hnat]
          exact Nat.le_mul_of_pos_left _ hpos
        have hlog := le_log2_of_pow_le hzero hle
        omega
      rw [if_neg hexponent, he, Int.toNat_natCast, if_neg hsmall]
      refine nearestCode_of_units (Nat.pow_pos (by decide)) hle ?_
      rw [hunits, hnat]
      ring

theorem isExactly_toBinary64 {d : Decimal} {n : ℤ} (h : d.value = n) (hn : n.natAbs ≤ 2 ^ 53) :
    d.toBinary64.IsExactly n := by
  obtain ⟨code, hcode, hunits⟩ := exists_code hn
  have hbits := code_of_value h hn hcode hunits
  refine ⟨hbits ▸ hcode, ?_⟩
  have hpos : (unitsPerOne : ℚ) ≠ 0 := by exact_mod_cast Nat.ne_of_gt unitsPerOne_pos
  have hmagnitude : magnitude code = d.significand * 10 ^ d.exponent := by
    rw [← natAbs_eq_of_value h, magnitude, hunits, Nat.cast_mul, mul_div_cancel_right₀ _ hpos]
  rw [Binary64.value, hbits, hmagnitude, toBinary64_negative, ← h, value]

end FormRules.Decimal
