import FormRules.Number.Binary64
import Mathlib.Algebra.Order.Field.Rat
import Mathlib.Tactic.FieldSimp
import Mathlib.Tactic.Linarith
import Mathlib.Tactic.Ring

/-!
# Exact floating-point numbers

Greater codes stand for greater magnitudes, so that comparing floating-point numbers is comparing
the rational numbers that they are.  A quotient that is a magnitude rounds to its code; whole
numbers up to `2 ^ 53` are magnitudes.
-/

namespace FormRules.Binary64

/-! ### Units of a code -/

theorem leadingBit_eq : leadingBit = 2 ^ 52 := rfl

theorem infinityCode_eq : infinityCode = 2047 * leadingBit := rfl

theorem units_of_lt {code : ℕ} (h : code < leadingBit) : units code = code := by
  rw [units, if_pos h]

theorem units_normal {r : ℕ} (hr : r < leadingBit) (q : ℕ) :
    units ((q + 1) * leadingBit + r) = (leadingBit + r) * 2 ^ q := by
  have hpos : 0 < leadingBit := by decide
  have hmod : ((q + 1) * leadingBit + r) % leadingBit = r := by
    rw [Nat.mul_comm, Nat.mul_add_mod, Nat.mod_eq_of_lt hr]
  have hdiv : ((q + 1) * leadingBit + r) / leadingBit = q + 1 := by
    rw [Nat.mul_comm, Nat.mul_add_div hpos, Nat.div_eq_of_lt hr, Nat.add_zero]
  have hlarge : ¬(q + 1) * leadingBit + r < leadingBit := by
    rw [Nat.add_mul]
    omega
  rw [units, if_neg hlarge, hmod, hdiv, Nat.shiftLeft_eq, Nat.add_sub_cancel]

theorem code_cases (code : ℕ) :
    code < leadingBit ∨ ∃ q r, r < leadingBit ∧ code = (q + 1) * leadingBit + r := by
  have hpos : 0 < leadingBit := by decide
  by_cases h : code < leadingBit
  · exact Or.inl h
  · have hdiv : 0 < code / leadingBit := Nat.div_pos (by omega) hpos
    refine Or.inr ⟨code / leadingBit - 1, code % leadingBit, Nat.mod_lt _ hpos, ?_⟩
    rw [Nat.sub_add_cancel hdiv, Nat.mul_comm]
    exact (Nat.div_add_mod code leadingBit).symm

theorem units_lt_succ (code : ℕ) : units code < units (code + 1) := by
  obtain h | ⟨q, r, hr, hcode⟩ := code_cases code
  · rw [units_of_lt h]
    by_cases hnext : code + 1 < leadingBit
    · rw [units_of_lt hnext]
      omega
    · have hfirst : code + 1 = (0 + 1) * leadingBit + 0 := by omega
      rw [hfirst, units_normal (by decide)]
      omega
  · rw [hcode, units_normal hr]
    have hpos : 0 < 2 ^ q := Nat.two_pow_pos q
    by_cases hnext : r + 1 < leadingBit
    · rw [Nat.add_assoc, units_normal hnext]
      exact Nat.mul_lt_mul_of_pos_right (by omega) hpos
    · have hcarry : (q + 1) * leadingBit + r + 1 = (q + 1 + 1) * leadingBit + 0 := by
        rw [Nat.add_mul (q + 1)]
        omega
      have hdouble : (leadingBit + 0) * 2 ^ (q + 1) = (2 * leadingBit) * 2 ^ q := by
        rw [Nat.pow_succ]
        ring
      rw [hcarry, units_normal (by decide), hdouble]
      exact Nat.mul_lt_mul_of_pos_right (by omega) hpos

theorem units_strictMono : StrictMono units := strictMono_nat_of_lt_succ units_lt_succ

/-! ### Rounding what needs no rounding -/

theorem roundDiv_mul (m : ℕ) {den : ℕ} (hden : 0 < den) : roundDiv (m * den) den = m := by
  have hquotient : m * den / den = m := Nat.mul_div_cancel m hden
  have hremainder : m * den % den = 0 := Nat.mul_mod_left m den
  simp only [roundDiv, hquotient, hremainder]
  rw [if_pos (by omega)]

theorem log2_mul_two_pow {m : ℕ} (hm : leadingBit ≤ m ∧ m < 2 * leadingBit) (q : ℕ) :
    Nat.log2 (m * 2 ^ q) = 52 + q := by
  rw [leadingBit_eq] at hm
  have hpos : 0 < 2 ^ q := Nat.two_pow_pos q
  have hne : m * 2 ^ q ≠ 0 := Nat.mul_ne_zero (by omega) (by omega)
  rw [Nat.log2_eq_iff hne, Nat.add_right_comm, Nat.pow_add, Nat.pow_add]
  exact ⟨Nat.mul_le_mul_right _ hm.1, Nat.mul_lt_mul_of_pos_right (by omega) hpos⟩

/-- The number of units in one. -/
def unitsPerOne : ℕ := 1 <<< 1074

theorem shiftLeft_eq_mul (n k : ℕ) : n <<< k = n * (1 <<< k) := by
  rw [Nat.shiftLeft_eq, Nat.shiftLeft_eq, Nat.one_mul]

theorem one_shiftLeft_pos (k : ℕ) : 0 < 1 <<< k := by
  rw [Nat.shiftLeft_eq, Nat.one_mul]
  exact Nat.two_pow_pos k

theorem unitsPerOne_eq {i j : ℕ} (h : i + j = 1074) : unitsPerOne = 2 ^ i * 2 ^ j := by
  rw [unitsPerOne, ← h, Nat.shiftLeft_eq, Nat.one_mul, Nat.pow_add]

theorem unitsPerOne_pos : 0 < unitsPerOne := one_shiftLeft_pos 1074

/-- The place of the leading bit gives back by how much a significand was shifted. -/
theorem shift_normal {r : ℕ} (hr : r < leadingBit) (q : ℕ) :
    (if (leadingBit + r) * 2 ^ q < 2 * leadingBit then 0
      else Nat.log2 ((leadingBit + r) * 2 ^ q) - 52) = q := by
  cases q with
  | zero => rw [Nat.pow_zero, Nat.mul_one, if_pos (by omega)]
  | succ q =>
    have hpos : 0 < 2 ^ q := Nat.two_pow_pos q
    have hlarge : ¬(leadingBit + r) * 2 ^ (q + 1) < 2 * leadingBit := by
      rw [Nat.pow_succ, ← Nat.mul_assoc]
      have hle : leadingBit * 1 ≤ (leadingBit + r) * 2 ^ q := Nat.mul_le_mul (by omega) hpos
      omega
    rw [if_neg hlarge, log2_mul_two_pow (by omega)]
    omega

/-- A quotient that is the magnitude of a code is rounded to the code. -/
theorem nearestCode_of_units {num den code : ℕ} (hden : 0 < den) (hcode : code ≤ infinityCode)
    (h : num * unitsPerOne = units code * den) : nearestCode num den = code := by
  have hscaled : num <<< 1074 = units code * den := by rw [← h, shiftLeft_eq_mul, unitsPerOne]
  have hwhole : units code * den / den = units code := Nat.mul_div_cancel _ hden
  simp only [nearestCode, hscaled, hwhole]
  obtain hsmall | ⟨q, r, hr, heq⟩ := code_cases code
  · have hunits : units code < 2 * leadingBit := by
      rw [units_of_lt hsmall]
      omega
    rw [if_pos hunits, Nat.shiftLeft_zero, roundDiv_mul _ hden, units_of_lt hsmall, Nat.zero_mul,
      Nat.zero_add]
    exact Nat.min_eq_left hcode
  · have hunits : units code = (leadingBit + r) * 2 ^ q := by rw [heq, units_normal hr]
    rw [hunits, shift_normal hr, Nat.shiftLeft_eq, Nat.mul_assoc, Nat.mul_comm (2 ^ q) den,
      roundDiv_mul _ (Nat.mul_pos hden (Nat.two_pow_pos q))]
    have hsum : q * leadingBit + (leadingBit + r) = code := by
      rw [heq, Nat.add_mul]
      omega
    rw [hsum]
    exact Nat.min_eq_left hcode

/-! ### Whole numbers -/

theorem exists_code_mul {m : ℕ} (hm : leadingBit ≤ m ∧ m < 2 * leadingBit) (q : ℕ)
    (hq : q < 2046) : ∃ code < infinityCode, units code = m * 2 ^ q := by
  have hr : m - leadingBit < leadingBit := by omega
  refine ⟨(q + 1) * leadingBit + (m - leadingBit), ?_, ?_⟩
  · have hle : (q + 1) * leadingBit ≤ 2046 * leadingBit := Nat.mul_le_mul_right _ hq
    rw [infinityCode_eq]
    omega
  · rw [units_normal hr, Nat.add_sub_cancel' hm.1]

/-- Whole numbers up to `2 ^ 53` are magnitudes. -/
theorem exists_code {n : ℕ} (hn : n ≤ 2 ^ 53) :
    ∃ code < infinityCode, units code = n * unitsPerOne := by
  by_cases hzero : n = 0
  · refine ⟨0, by decide, ?_⟩
    rw [hzero, Nat.zero_mul, units_of_lt (by decide)]
  · obtain ⟨hlow, hhigh⟩ := (Nat.log2_eq_iff hzero).1 rfl
    by_cases hlog : n.log2 ≤ 52
    · -- the significand is the number moved up to the leading bit
      have hsplit : 2 ^ 52 = 2 ^ n.log2 * 2 ^ (52 - n.log2) := by
        rw [← Nat.pow_add, Nat.add_sub_cancel' hlog]
      have hpos : 0 < 2 ^ (52 - n.log2) := Nat.two_pow_pos _
      have hlead : leadingBit ≤ n * 2 ^ (52 - n.log2) := by
        rw [leadingBit_eq, hsplit]
        exact Nat.mul_le_mul_right _ hlow
      have htop : n * 2 ^ (52 - n.log2) < 2 * leadingBit := by
        rw [leadingBit_eq, hsplit, ← Nat.mul_assoc, Nat.mul_comm 2, ← Nat.pow_succ]
        exact Nat.mul_lt_mul_of_pos_right hhigh hpos
      obtain ⟨code, hcode, hunits⟩ := exists_code_mul ⟨hlead, htop⟩ (1022 + n.log2) (by omega)
      refine ⟨code, hcode, ?_⟩
      have hexponent : 52 - n.log2 + (1022 + n.log2) = 1074 := by omega
      rw [hunits, unitsPerOne_eq hexponent, Nat.mul_assoc]
    · have hmost : 2 ^ 53 ≤ 2 ^ n.log2 := Nat.pow_le_pow_right (by decide) (by omega)
      have hn' : n = leadingBit * 2 := by
        rw [leadingBit_eq]
        omega
      have hlead : leadingBit ≤ leadingBit ∧ leadingBit < 2 * leadingBit := by decide
      obtain ⟨j, hj⟩ : ∃ j, 1 + j = 1074 := ⟨1073, rfl⟩
      obtain ⟨code, hcode, hunits⟩ := exists_code_mul hlead (2 + j) (by omega)
      refine ⟨code, hcode, ?_⟩
      rw [hunits, hn', unitsPerOne_eq hj, Nat.pow_add]
      ring

/-! ### The number that a floating-point number is -/

/-- The magnitude of a code. -/
def magnitude (code : ℕ) : ℚ := units code / unitsPerOne

/-- The rational number that a finite floating-point number is. -/
def value (x : Binary64) : ℚ := (if x.negative then -1 else 1) * magnitude x.code

/-- A finite floating-point number is a rational number without any error. -/
def IsExactly (x : Binary64) (q : ℚ) : Prop := x.code < infinityCode ∧ x.value = q

theorem magnitude_strictMono : StrictMono magnitude := by
  intro code other h
  have hunits : (units code : ℚ) < units other := by exact_mod_cast units_strictMono h
  have hpos : (0 : ℚ) < unitsPerOne := by exact_mod_cast unitsPerOne_pos
  exact div_lt_div_of_pos_right hunits hpos

theorem magnitude_zero : magnitude 0 = 0 := by
  rw [magnitude, units_of_lt (by decide), Nat.cast_zero, zero_div]

theorem magnitude_nonneg (code : ℕ) : 0 ≤ magnitude code := by
  rw [← magnitude_zero]
  exact magnitude_strictMono.monotone (Nat.zero_le code)

/-- Comparing the places in the order is comparing the numbers. -/
theorem rank_le_iff (x y : Binary64) : x.rank ≤ y.rank ↔ x.value ≤ y.value := by
  have hle (code other : ℕ) : magnitude code ≤ magnitude other ↔ code ≤ other :=
    magnitude_strictMono.le_iff_le
  have hx := magnitude_nonneg x.code
  have hy := magnitude_nonneg y.code
  have hzero (code : ℕ) : magnitude code ≤ 0 ↔ code = 0 := by
    rw [← magnitude_zero, hle, Nat.le_zero]
  simp only [rank, value]
  cases x.negative <;> cases y.negative <;>
    simp only [Bool.false_eq_true, if_false, if_true, one_mul, neg_mul, neg_le_neg_iff]
  · exact Int.ofNat_le.trans (hle _ _).symm
  · -- a number from zero on is at most one up to zero only if both are zero
    have hvalue : magnitude x.code ≤ -magnitude y.code ↔
        magnitude x.code ≤ 0 ∧ magnitude y.code ≤ 0 := by
      constructor
      · intro h
        constructor <;> linarith
      · intro h
        linarith [h.1, h.2]
    rw [hvalue, hzero, hzero]
    omega
  · exact iff_of_true (by omega) (by linarith)
  · exact Int.ofNat_le.trans (hle _ _).symm

theorem le_iff_rank {x y : Binary64} (hx : x.isNaN = false) (hy : y.isNaN = false) :
    x.le y = true ↔ x.rank ≤ y.rank := by
  rw [le, hx, hy, Bool.not_false, Bool.true_and, Bool.true_and, decide_eq_true_iff]

theorem IsExactly.isNaN_eq_false {x : Binary64} {q : ℚ} (h : x.IsExactly q) : x.isNaN = false := by
  have hcode := h.1
  rw [isNaN, decide_eq_false_iff_not]
  omega

theorem IsExactly.le_iff {x y : Binary64} {p q : ℚ} (hx : x.IsExactly p) (hy : y.IsExactly q) :
    x.le y = true ↔ p ≤ q := by
  rw [← hx.2, ← hy.2, ← rank_le_iff, le_iff_rank hx.isNaN_eq_false hy.isNaN_eq_false]

/-- Whole numbers up to `2 ^ 53` have no error. -/
theorem isExactly_ofNat {n : ℕ} (hn : n ≤ 2 ^ 53) : (ofNat n).IsExactly n := by
  obtain ⟨code, hcode, hunits⟩ := exists_code hn
  have hnearest : nearestCode n 1 = code :=
    nearestCode_of_units Nat.one_pos (Nat.le_of_lt hcode) (by rw [hunits, Nat.mul_one])
  have hpos : (unitsPerOne : ℚ) ≠ 0 := by exact_mod_cast Nat.ne_of_gt unitsPerOne_pos
  rw [ofNat, hnearest]
  refine ⟨hcode, ?_⟩
  rw [value, magnitude, hunits]
  push_cast
  field_simp

end FormRules.Binary64
