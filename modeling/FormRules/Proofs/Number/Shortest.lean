import FormRules.Number.Shortest
import FormRules.Proofs.Number.Nearest
import Mathlib.Algebra.Order.Field.Power
import Mathlib.Tactic.Positivity

/-!
# The shortest decimal reads back

Whatever grid the search stops at, the point it takes lies in the interval of the magnitude and so
rounds back to it.  It does stop: on the grid of seventeen digits behind the leading one the steps
are smaller than half the distance to the magnitude below.
-/

namespace FormRules.Binary64

-- Powers of natural numbers are those of core, also where Mathlib brings its own.
attribute [local instance (high)] instPowNat

variable {code n : ℕ} {e : ℤ} {q : ℚ}

/-! ### Points of a grid -/

/-- The number that a point of a grid stands for. -/
def pointOf (n : ℕ) (e : ℤ) : ℚ := n * 10 ^ e

theorem pointOf_eq_div (n : ℕ) (e : ℤ) :
    pointOf n e = (n * 10 ^ e.toNat : ℕ) / (10 ^ (-e).toNat : ℕ) := by
  rw [pointOf]
  push_cast
  rcases Int.le_total 0 e with he | he
  · obtain ⟨k, rfl⟩ := Int.eq_ofNat_of_zero_le he
    simp
  · obtain ⟨k, hk⟩ := Int.eq_ofNat_of_zero_le (Int.neg_nonneg_of_nonpos he)
    obtain rfl : e = -(k : ℤ) := by omega
    simp [div_eq_mul_inv]

theorem roundsWithin_pointOf_iff (n : ℕ) (e : ℤ) (code : ℕ) :
    RoundsWithin (pointOf n e) code ↔
      IsWithin (n * 10 ^ e.toNat * unitsPerOne) (10 ^ (-e).toNat) code := by
  rw [pointOf_eq_div]
  exact roundsWithin_div_iff _ (Nat.pow_pos (by decide)) code

theorem point_eq (n : ℕ) (code : ℕ) (e : ℤ) :
    n * (gridOf code e).unit = 2 * (n * 10 ^ e.toNat * unitsPerOne) := by
  have hdouble : 2 <<< 1074 = 2 * unitsPerOne := shiftLeft_eq_mul 2 1074
  simp only [gridOf, hdouble]
  ring

/-- The points of a grid in the interval of a code are those that round to it. -/
theorem contains_gridOf_iff (hcode : 0 < code) :
    (gridOf code e).contains n = true ↔
      RoundsWithin (pointOf n e) code ∧ ¬RoundsWithin (pointOf n e) (code - 1) := by
  obtain ⟨below, rfl⟩ : ∃ below, code = below + 1 := ⟨code - 1, by omega⟩
  rw [Nat.add_sub_cancel, roundsWithin_pointOf_iff, roundsWithin_pointOf_iff, IsWithin, IsWithin,
    ← point_eq n (below + 1) e]
  simp only [Grid.contains, gridOf, Nat.add_sub_cancel, beq_iff_eq]
  split
  · simp only [Bool.and_eq_true, decide_eq_true_eq]
    omega
  · simp only [Bool.and_eq_true, decide_eq_true_eq]
    omega

/-! ### The point that is taken -/

theorem contains_of_nearest? {grid : Grid} {tie : Tie} (h : grid.nearest? tie = some n) :
    grid.contains n = true := by
  simp only [Grid.nearest?] at h
  split at h
  · cases h
  · rename_i hbelow _
    obtain rfl := Option.some.inj h
    exact (Bool.and_eq_true_iff.1 hbelow).1
  · rename_i habove
    obtain rfl := Option.some.inj h
    exact habove
  · rename_i hbelow habove
    have hbelow := (Bool.and_eq_true_iff.1 hbelow).1
    have htaken : n = grid.middle / grid.unit ∨ n = grid.middle / grid.unit + 1 := by
      cases tie <;> grind
    rcases htaken with rfl | rfl
    · exact hbelow
    · exact habove

/-- A grid whose steps fit between the lower end of the interval and its middle has a point in the
interval. -/
theorem nearest?_ne_none {grid : Grid} (hunit : 0 < grid.unit)
    (hlow : grid.low + grid.unit ≤ grid.middle) (hhigh : grid.middle < grid.high) (tie : Tie) :
    grid.nearest? tie ≠ none := by
  have hle : grid.middle / grid.unit * grid.unit ≤ grid.middle := Nat.div_mul_le_self _ _
  have hless : grid.middle < (grid.middle / grid.unit + 1) * grid.unit :=
    Nat.lt_mul_of_div_lt (Nat.lt_succ_self _) hunit
  rw [Nat.add_mul] at hless
  have hcontains : grid.contains (grid.middle / grid.unit) = true := by
    simp only [Grid.contains]
    split
    · simp only [Bool.and_eq_true, decide_eq_true_eq]
      omega
    · simp only [Bool.and_eq_true, decide_eq_true_eq]
      omega
  have hne : (grid.middle / grid.unit != 0) = true := by
    rw [bne_iff_ne]
    intro hzero
    rw [hzero] at hless hle
    omega
  intro hnone
  simp only [Grid.nearest?, hcontains, hne, Bool.and_self] at hnone
  cases tie <;> grind

/-- The search goes no further than the first grid with a point in the interval. -/
theorem contains_shortestFrom {tie : Tie} {leading : ℤ} {fuel count k : ℕ}
    (hk : (gridOf code (leading - (k : ℤ))).nearest? tie ≠ none) (hcount : count ≤ k)
    (hfuel : k < count + fuel) :
    (gridOf code (shortestFrom code tie leading fuel count).exponent).contains
      (shortestFrom code tie leading fuel count).digits = true := by
  induction fuel generalizing count with
  | zero => omega
  | succ fuel ih =>
    simp only [shortestFrom]
    split
    · rename_i digits hdigits
      exact contains_of_nearest? hdigits
    · rename_i hnone
      have hne : count ≠ k := by
        intro heq
        rw [heq] at hnone
        exact hk hnone
      exact ih (by omega) (by omega)

/-! ### The leading digit -/

theorem pointOf_le_iff (num den : ℕ) (e : ℤ) :
    den * 10 ^ e.toNat ≤ num * 10 ^ (-e).toNat ↔ pointOf den e ≤ num := by
  have hscale : (0 : ℚ) < (10 ^ (-e).toNat : ℕ) := by positivity
  rw [pointOf_eq_div, div_le_iff₀ hscale]
  norm_cast

/-- Counting down ends at an exponent that is reached, if it goes far enough. -/
theorem pointOf_leadingExponentFrom_le {num den fuel : ℕ}
    (h : pointOf den (e - fuel) ≤ num) :
    pointOf den (leadingExponentFrom num den fuel e) ≤ num := by
  induction fuel generalizing e with
  | zero => simpa [leadingExponentFrom] using h
  | succ fuel ih =>
    rw [leadingExponentFrom]
    split
    · rename_i hreached
      exact (pointOf_le_iff num den e).1 hreached
    · apply ih
      rw [sub_sub, add_comm 1]
      exact_mod_cast h

theorem ten_pow_le_two_pow {m n : ℕ} (h : 10 * m ≤ 3 * n) : 10 ^ m ≤ 2 ^ n := by
  have hpower : (10 ^ m) ^ 10 ≤ (2 ^ n) ^ 10 :=
    calc (10 ^ m) ^ 10 = 10 ^ (10 * m) := by rw [← Nat.pow_mul, Nat.mul_comm]
      _ ≤ 10 ^ (3 * n) := Nat.pow_le_pow_right (by decide) h
      _ = (10 ^ 3) ^ n := Nat.pow_mul 10 3 n
      _ ≤ (2 ^ 10) ^ n := Nat.pow_le_pow_left (by decide) n
      _ = (2 ^ n) ^ 10 := by rw [← Nat.pow_mul, ← Nat.pow_mul, Nat.mul_comm]
  exact (Nat.pow_le_pow_iff_left (by decide)).1 hpower

/-- The estimate is at most four above the exponent of a power of ten that `2 ^ k` reaches. -/
theorem ten_zpow_le_two_zpow {k : ℤ} (hlow : -1074 ≤ k) (hhigh : k ≤ 1024) :
    (10 : ℚ) ^ (k * 30103 / 100000 + 1 - (5 : ℕ)) ≤ 2 ^ k := by
  have hten : (1 : ℚ) ≤ 10 := by norm_num
  rcases Int.le_total 0 k with hk | hk
  · obtain ⟨n, rfl⟩ := Int.eq_ofNat_of_zero_le hk
    have hpower : (10 : ℚ) ^ (3 * n / 10) ≤ 2 ^ n := by
      exact_mod_cast ten_pow_le_two_pow (Nat.mul_div_le (3 * n) 10)
    calc (10 : ℚ) ^ ((n : ℤ) * 30103 / 100000 + 1 - (5 : ℕ))
        ≤ 10 ^ ((3 * n / 10 : ℕ) : ℤ) := zpow_le_zpow_right₀ hten (by omega)
      _ ≤ 2 ^ (n : ℤ) := by rwa [zpow_natCast, zpow_natCast]
  · obtain ⟨n, rfl⟩ : ∃ n : ℕ, k = -(n : ℤ) := ⟨(-k).toNat, by omega⟩
    obtain ⟨j, hj⟩ : ∃ j : ℕ, -(n : ℤ) * 30103 / 100000 + 1 - (5 : ℕ) = -(j : ℤ) :=
      ⟨(-(-(n : ℤ) * 30103 / 100000 + 1 - (5 : ℕ))).toNat, by omega⟩
    have hpower : (2 : ℚ) ^ n ≤ 10 ^ j := by
      exact_mod_cast two_pow_le_ten_pow (by omega)
    rw [hj, zpow_neg, zpow_neg, zpow_natCast, zpow_natCast]
    exact inv_anti₀ (by positivity) hpower

theorem log2_units_le (hpos : units code ≠ 0) (hcode : code ≤ infinityCode) :
    (units code).log2 ≤ 1024 + 1074 := by
  obtain ⟨k, hk⟩ : ∃ k, 1024 + 1074 = k := ⟨_, rfl⟩
  have hpower : units code ≤ 2 ^ k := by
    rw [← two_pow_mul_unitsPerOne hk]
    exact units_le_two_pow hcode
  have hless : units code < 2 ^ (k + 1) :=
    Nat.lt_of_le_of_lt hpower (Nat.pow_lt_pow_right (by decide) (Nat.lt_succ_self k))
  have hlog := (Nat.log2_lt hpos).2 hless
  omega

theorem units_pos (hcode : 0 < code) : 0 < units code :=
  Nat.lt_of_le_of_lt (Nat.zero_le _) (units_strictMono hcode)

theorem pointOf_leadingExponent_le (hpos : 0 < code) (hcode : code < infinityCode) :
    pointOf unitsPerOne (leadingExponent code) ≤ units code := by
  have hunits : units code ≠ 0 := (units_pos hpos).ne'
  have hlog := log2_units_le hunits hcode.le
  obtain ⟨j, hj⟩ : ∃ j, 0 + 1074 = j := ⟨_, rfl⟩
  have hone : (unitsPerOne : ℚ) = 2 ^ (j : ℤ) := by
    have hpower := two_pow_mul_unitsPerOne hj
    rw [Nat.pow_zero, Nat.one_mul] at hpower
    rw [hpower, zpow_natCast]
    push_cast
    rfl
  have hlow : (2 : ℚ) ^ ((units code).log2 : ℤ) ≤ units code := by
    exact_mod_cast Nat.log2_self_le hunits
  refine pointOf_leadingExponentFrom_le ?_
  calc pointOf unitsPerOne _
      ≤ unitsPerOne * 2 ^ (((units code).log2 : ℤ) - 1074) :=
        mul_le_mul_of_nonneg_left (ten_zpow_le_two_zpow (by omega) (by omega)) (Nat.cast_nonneg _)
    _ = 2 ^ ((units code).log2 : ℤ) := by
        rw [hone, ← zpow_add₀ two_ne_zero]
        congr 1
        omega
    _ ≤ units code := hlow

/-! ### The shortest decimal -/

theorem units_succ_le (code : ℕ) : units (code + 1) ≤ 2 ^ 53 * (units (code + 1) - units code) := by
  obtain ⟨shift, k, hlow, hhigh, rfl⟩ : ∃ shift k, (shift = 0 ∨ leadingBit ≤ k) ∧
      k < 2 * leadingBit ∧ code = shift * leadingBit + k := by
    rcases code_cases code with hsmall | ⟨q, r, hr, hcode⟩
    · exact ⟨0, code, Or.inl rfl, by omega, by omega⟩
    · refine ⟨q, leadingBit + r, Or.inr (by omega), by omega, ?_⟩
      rw [hcode, Nat.add_mul]
      omega
  have hstep : (k + 1) * 2 ^ shift - k * 2 ^ shift = 2 ^ shift := by
    rw [Nat.add_mul, Nat.one_mul, Nat.add_sub_cancel_left]
  rw [Nat.add_assoc, units_window hlow hhigh.le, units_window (k := k + 1) (by omega) hhigh, hstep]
  rw [leadingBit_eq] at hhigh
  exact Nat.mul_le_mul_right _ hhigh

/-- Seventeen digits behind the leading one there is a point in the interval. -/
theorem nearest?_leadingExponent (hpos : 0 < code) (hcode : code < infinityCode) (tie : Tie) :
    (gridOf code (leadingExponent code - (17 : ℕ))).nearest? tie ≠ none := by
  have hleading := pointOf_leadingExponent_le hpos hcode
  generalize leadingExponent code = leading at *
  obtain ⟨below, rfl⟩ : ∃ below, code = below + 1 := ⟨code - 1, by omega⟩
  have hgap : (units (below + 1) : ℚ) ≤ 2 ^ 53 * (units (below + 1) - units below : ℕ) := by
    exact_mod_cast units_succ_le below
  have hdouble : 2 <<< 1074 = 2 * unitsPerOne := shiftLeft_eq_mul 2 1074
  have hscale : 0 < 10 ^ (-(leading - (17 : ℕ))).toNat := Nat.pow_pos (by decide)
  -- the steps are at most half as wide as the gap below
  have hstep : pointOf (2 * unitsPerOne) (leading - (17 : ℕ)) ≤
      (units (below + 1) - units below : ℕ) := by
    have hsplit : pointOf (2 * unitsPerOne) (leading - (17 : ℕ)) =
        2 * pointOf unitsPerOne leading / 10 ^ 17 := by
      rw [pointOf, pointOf, zpow_sub₀ (by norm_num), zpow_natCast]
      push_cast
      ring
    rw [hsplit, div_le_iff₀ (by norm_num)]
    linarith
  have hwidth := (pointOf_le_iff _ _ _).2 hstep
  have hmore : units (below + 1) * 10 ^ (-(leading - (17 : ℕ))).toNat <
      units (below + 1 + 1) * 10 ^ (-(leading - (17 : ℕ))).toNat :=
    Nat.mul_lt_mul_of_pos_right (units_lt_succ (below + 1)) hscale
  have hless : units below * 10 ^ (-(leading - (17 : ℕ))).toNat <
      units (below + 1) * 10 ^ (-(leading - (17 : ℕ))).toNat :=
    Nat.mul_lt_mul_of_pos_right (units_lt_succ below) hscale
  rw [Nat.sub_mul] at hwidth
  apply nearest?_ne_none
  · simp only [gridOf, hdouble]
    exact Nat.mul_pos (Nat.mul_pos two_pos unitsPerOne_pos) (Nat.pow_pos (by decide))
  · simp only [gridOf, hdouble, Nat.add_sub_cancel, Nat.add_mul, Nat.mul_assoc 2] at hwidth ⊢
    omega
  · simp only [gridOf, Nat.add_mul, Nat.mul_assoc 2]
    omega

/-- The shortest decimal of a positive finite magnitude is positive and rounds to the magnitude. -/
theorem shortestDigits_roundsTo (hpos : 0 < code) (hcode : code < infinityCode) (tie : Tie) :
    0 < (shortestDigits code tie).digits ∧
      RoundsTo (pointOf (shortestDigits code tie).digits (shortestDigits code tie).exponent)
        code := by
  have hcontains : (gridOf code (shortestDigits code tie).exponent).contains
      (shortestDigits code tie).digits = true :=
    contains_shortestFrom (nearest?_leadingExponent hpos hcode tie) (Nat.zero_le 17) (by decide)
  obtain ⟨hwithin, hbeyond⟩ := (contains_gridOf_iff hpos).1 hcontains
  refine ⟨Nat.pos_of_ne_zero fun hzero => hbeyond ?_, hwithin, fun other hless h => ?_⟩
  · rw [hzero, pointOf, Nat.cast_zero, zero_mul]
    exact Or.inl (midpoint_pos _)
  · exact hbeyond (h.of_le (Nat.le_pred_of_lt hless))

end FormRules.Binary64
