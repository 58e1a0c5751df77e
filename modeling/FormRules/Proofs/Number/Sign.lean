import FormRules.Proofs.Number.Literal
import FormRules.Proofs.Number.Rounding

/-!
# Signs of numbers

The sign predicates look at the rounded number.  Rounding keeps the sign, and it gives zero for what
is at most half of the least positive magnitude away from zero; so up to this distance a number
passes for zero, and beyond it the predicates tell the sign of the number as it is written.

`is_number_nonzero` documents that the value is different from zero, and asks this of the rounded
number.
-/

namespace FormRules

open FormRules.Text

/-! ### Comparing with zero -/

namespace Binary64

/-- Without a number that is none, less is not at least. -/
theorem lt_eq_not_le {x y : Binary64} (hx : x.isNaN = false) (hy : y.isNaN = false) :
    x.lt y = !y.le x := by
  simp only [lt, le, hx, hy, Bool.not_false, Bool.true_and, ← decide_not, Int.not_le]

theorem zero_le_iff {x : Binary64} (h : x.isNaN = false) :
    zero.le x = true ↔ x.negative = false ∨ x.code = 0 := by
  have hzero : zero.rank = 0 := rfl
  rw [le_iff_rank rfl h, hzero, rank]
  cases x.negative <;> simp

theorem le_zero_iff {x : Binary64} (h : x.isNaN = false) :
    x.le zero = true ↔ x.negative = true ∨ x.code = 0 := by
  have hzero : zero.rank = 0 := rfl
  rw [le_iff_rank h rfl, hzero, rank]
  cases x.negative <;> simp

theorem isZero_iff {x : Binary64} : x.isZero = true ↔ x.code = 0 := beq_iff_eq

/-! ### What is rounded to zero -/

/-- Half of the least positive magnitude. -/
def vanishing : ℚ := 1 / 2 ^ 1075

theorem vanishing_nonneg : 0 ≤ vanishing := div_nonneg zero_le_one (pow_nonneg zero_le_two _)

theorem midpoint_zero : midpoint 0 = vanishing := by
  obtain ⟨n, hn⟩ : ∃ n, n = 1075 := ⟨1075, rfl⟩
  have hpower : 2 ^ 1 * unitsPerOne = 2 ^ n := two_pow_mul_unitsPerOne hn.symm
  have hcast : (2 : ℚ) * unitsPerOne = 2 ^ n := by exact_mod_cast hpower
  have hone : units (0 + 1) = 1 := by decide
  rw [midpoint, magnitude_zero, magnitude, hone, Nat.cast_one, zero_add, div_div, mul_comm, hcast,
    vanishing, hn]

end Binary64

open Binary64

/-- What is read is a number. -/
theorem isNaN_of_numberOf? {value : String} {x : Binary64} (h : numberOf? value = some x) :
    x.isNaN = false := by
  simp only [numberOf?] at h
  split at h
  · rename_i hgrammar
    obtain ⟨d, -, hread⟩ := Numeral.exists_read? hgrammar
    obtain rfl := Option.some.inj (hread.symm.trans h)
    exact d.toBinary64_isNaN
  · exact absurd h (by simp)

theorem Decimal.code_eq_zero_iff (d : Decimal) :
    d.toBinary64.code = 0 ↔ |d.value| ≤ vanishing := by
  rw [← Nat.le_zero, d.code_le_iff (by decide), RoundsWithin, midpoint_zero, le_iff_lt_or_eq]
  simp

/-! ### The sign of a literal -/

namespace Decimal

theorem value_eq_abs (d : Decimal) :
    d.value = if d.negative then -|d.value| else |d.value| := by
  rw [abs_value, value]
  cases d.negative <;> simp

theorem zero_le_iff (d : Decimal) : zero.le d.toBinary64 = true ↔ -vanishing ≤ d.value := by
  have hvanishing := vanishing_nonneg
  have habs := abs_nonneg d.value
  have hvalue := d.value_eq_abs
  rw [Binary64.zero_le_iff d.toBinary64_isNaN, d.code_eq_zero_iff, toBinary64_negative]
  cases hsign : d.negative with
  | false =>
    rw [hsign, if_neg Bool.false_ne_true] at hvalue
    exact iff_of_true (Or.inl rfl) (by linarith)
  | true =>
    rw [hsign, if_pos rfl] at hvalue
    rw [or_iff_right (by decide)]
    constructor <;> intro h <;> linarith

theorem le_zero_iff (d : Decimal) : d.toBinary64.le zero = true ↔ d.value ≤ vanishing := by
  have hvanishing := vanishing_nonneg
  have habs := abs_nonneg d.value
  have hvalue := d.value_eq_abs
  rw [Binary64.le_zero_iff d.toBinary64_isNaN, d.code_eq_zero_iff, toBinary64_negative]
  cases hsign : d.negative with
  | true =>
    rw [hsign, if_pos rfl] at hvalue
    exact iff_of_true (Or.inl rfl) (by linarith)
  | false =>
    rw [hsign, if_neg Bool.false_ne_true] at hvalue
    rw [or_iff_right (by decide)]
    constructor <;> intro h <;> linarith

end Decimal

namespace Numeral

variable {value : String} {x : ℚ}

theorem Denotes.isNonnegative_iff (h : Denotes (trim value.toList) x) :
    isNonnegative value = true ↔ -vanishing ≤ x := by
  obtain ⟨d, hvalue, hread⟩ := h.exists_numberOf?
  rw [isNonnegative, hread, Option.any_some, d.zero_le_iff, hvalue]

theorem Denotes.isNonpositive_iff (h : Denotes (trim value.toList) x) :
    isNonpositive value = true ↔ x ≤ vanishing := by
  obtain ⟨d, hvalue, hread⟩ := h.exists_numberOf?
  rw [isNonpositive, hread, Option.any_some, d.le_zero_iff, hvalue]

theorem Denotes.isNonzero_iff (h : Denotes (trim value.toList) x) :
    isNonzero value = true ↔ vanishing < |x| := by
  obtain ⟨d, hvalue, hread⟩ := h.exists_numberOf?
  rw [isNonzero, hread, Option.any_some, Bool.not_eq_true', ← Bool.not_eq_true, isZero_iff,
    d.code_eq_zero_iff, hvalue, not_le]

/-! ### Close to zero -/

/-- Digits with a negative exponent. -/
theorem denotes_small (sign : Sign) (n e : ℕ) :
    Denotes (sign.text ++ (Nat.toDigits 10 n ++ 'e' :: '-' :: Nat.toDigits 10 e))
      ((if sign.isMinus then -1 else 1) * (n / 10 ^ e)) := by
  let exponent : Exponent :=
    { letter := 'e'
      sign := .minus
      digits := Nat.toDigits 10 e
      isLetter := Or.inl rfl
      allDigits := fun _ hc => Nat.isDigit_of_mem_toDigits (by decide) (by decide) hc
      ne_nil := Nat.toDigits_ne_nil }
  have hexponent : Literal.exponentValue (some exponent) = -(e : ℤ) := by
    simp [exponent, Literal.exponentValue, Exponent.value, Sign.isMinus]
  refine ⟨⟨sign, (Literal.ofNat sign n).mantissa, some exponent⟩, ?_, ?_⟩
  · simp [exponent, Literal.text, Literal.ofNat, Mantissa.text, Mantissa.pointText,
      Literal.exponentText, Exponent.text, Sign.text]
  · rw [Literal.value, hexponent, zpow_neg, zpow_natCast, Literal.value_mantissa_ofNat, mul_assoc,
      div_eq_mul_inv]

theorem div_le_vanishing_iff (n e : ℕ) :
    (n : ℚ) / 10 ^ e ≤ vanishing ↔ n * 2 ^ 1075 ≤ 10 ^ e := by
  obtain ⟨k, hk⟩ : ∃ k, k = 1075 := ⟨1075, rfl⟩
  rw [vanishing, ← hk, div_le_div_iff₀ (by positivity) (by positivity), one_mul]
  norm_cast

/-- The sign predicates tell the sign of every literal, but for what is at most half of the least
positive magnitude away from zero, which passes for zero. -/
theorem Denotes.signs (h : Denotes (trim value.toList) x) :
    (isNonnegative value = true ↔ -vanishing ≤ x) ∧
      (isNonpositive value = true ↔ x ≤ vanishing) ∧
      (isNonzero value = true ↔ vanishing < |x|) :=
  ⟨h.isNonnegative_iff, h.isNonpositive_iff, h.isNonzero_iff⟩

/-- A little more than half of the least positive magnitude is told from zero. -/
theorem Denotes.signs_beyond :
    Denotes (trim "-25e-325".toList) (-1 * ((25 : ℕ) / 10 ^ 325)) ∧
      isNonnegative "-25e-325" = false ∧ isNonpositive "-25e-325" = true ∧
      isNonzero "-25e-325" = true := by
  have h : Denotes (trim "-25e-325".toList) (-1 * ((25 : ℕ) / 10 ^ 325)) :=
    denotes_small .minus 25 325
  obtain ⟨hnonnegative, hnonpositive, hnonzero⟩ := h.signs
  have hless : vanishing < (25 : ℕ) / 10 ^ 325 := by
    rw [← not_le, div_le_vanishing_iff]
    decide +kernel
  have hvanishing := vanishing_nonneg
  generalize ((25 : ℕ) : ℚ) / 10 ^ 325 = distance at *
  refine ⟨h, ?_, hnonpositive.2 (by linarith), hnonzero.2 ?_⟩
  · rw [← Bool.not_eq_true, hnonnegative]
    linarith
  · rw [neg_one_mul, abs_neg]
    exact lt_of_lt_of_le hless (le_abs_self _)

/-- A number above zero that passes for zero. -/
theorem isNonzero_tiny :
    Denotes (trim "1e-400".toList) (1 * ((1 : ℕ) / 10 ^ 400)) ∧
      0 < (1 * ((1 : ℕ) / 10 ^ 400) : ℚ) ∧
      isNonpositive "1e-400" = true ∧ isNonzero "1e-400" = false := by
  have h : Denotes (trim "1e-400".toList) (1 * ((1 : ℕ) / 10 ^ 400)) :=
    denotes_small .none 1 400
  have hle : (1 : ℕ) / 10 ^ 400 ≤ vanishing := by
    rw [div_le_vanishing_iff]
    decide +kernel
  have hpos : (0 : ℚ) < (1 : ℕ) / 10 ^ 400 := div_pos (by norm_num) (pow_pos (by norm_num) _)
  rw [one_mul] at h ⊢
  refine ⟨h, hpos, h.isNonpositive_iff.2 hle, ?_⟩
  rw [← Bool.not_eq_true, h.isNonzero_iff, abs_of_pos hpos, not_lt]
  exact hle

end Numeral

end FormRules
