import FormRules.Proofs.Number.Decimal

/-!
# Rounding to the nearest magnitude

Rounding gives a code or a smaller one exactly if the number lies below the point halfway between
the magnitude of the code and the next one, or at this point where the code is even.  With one such
statement for each code, the rounded code is determined.
-/

namespace FormRules

namespace Binary64

/-! ### Quotients -/

theorem roundDiv_le_iff {num den q : ℕ} (hden : 0 < den) :
    roundDiv num den ≤ q ↔
      2 * num < (2 * q + 1) * den ∨ 2 * num = (2 * q + 1) * den ∧ q % 2 = 0 := by
  have hnum := Nat.div_add_mod num den
  have hrest := Nat.mod_lt num hden
  have hlow := le_roundDiv num den
  have hhigh := roundDiv_le num den
  have hpoint : (2 * q + 1) * den = 2 * (den * q) + den := by ring
  rw [hpoint]
  obtain hless | heq | hmore := Nat.lt_trichotomy (num / den) q
  · have hstep : den * (num / den) + den ≤ den * q := Nat.mul_le_mul_left den hless
    refine iff_of_true (by omega) (Or.inl (by omega))
  · subst heq
    simp only [roundDiv]
    repeat' split
    all_goals omega
  · have hstep : den * q + den ≤ den * (num / den) := Nat.mul_le_mul_left den hmore
    refine iff_of_false (by omega) ?_
    omega

/-! ### Codes -/

/-- From `shift * leadingBit` on codes go up in steps of `2 ^ shift`, as far as the significand has
its leading bit. -/
theorem units_window {shift k : ℕ} (hlow : shift = 0 ∨ leadingBit ≤ k)
    (hhigh : k ≤ 2 * leadingBit) : units (shift * leadingBit + k) = k * 2 ^ shift := by
  have hpos : 0 < leadingBit := by decide
  by_cases hsmall : k < leadingBit
  · have hshift : shift = 0 := hlow.resolve_right (by omega)
    rw [hshift, Nat.zero_mul, Nat.zero_add, units_of_lt hsmall, Nat.pow_zero, Nat.mul_one]
  · by_cases htop : k < 2 * leadingBit
    · have hcode : shift * leadingBit + k = (shift + 1) * leadingBit + (k - leadingBit) := by
        rw [Nat.add_mul]
        omega
      rw [hcode, units_normal (by omega), Nat.add_sub_cancel' (by omega)]
    · have hcode : shift * leadingBit + k = (shift + 1 + 1) * leadingBit + 0 := by
        rw [Nat.add_mul, Nat.add_mul]
        omega
      have hk : k = 2 * leadingBit := by omega
      rw [hcode, units_normal hpos, hk, Nat.pow_succ]
      ring

/-- What rounding does: the significand is cut at a place where its leading bit stays, unless the
number is below the least one with a leading bit. -/
theorem exists_nearestCode_eq (num : ℕ) {den : ℕ} (hden : 0 < den) :
    ∃ shift, nearestCode num den =
        min (shift * leadingBit + roundDiv (num * unitsPerOne) (den * 2 ^ shift)) infinityCode ∧
      num * unitsPerOne < 2 * leadingBit * (den * 2 ^ shift) ∧
      (shift = 0 ∨ leadingBit * (den * 2 ^ shift) ≤ num * unitsPerOne) := by
  have hscaled : num <<< 1074 = num * unitsPerOne := shiftLeft_eq_mul num 1074
  have hless : num * unitsPerOne < (num * unitsPerOne / den + 1) * den :=
    Nat.lt_mul_of_div_lt (Nat.lt_succ_self _) hden
  have hmore : num * unitsPerOne / den * den ≤ num * unitsPerOne := Nat.div_mul_le_self _ den
  generalize hwhole : num * unitsPerOne / den = whole at hless hmore
  have hcode : nearestCode num den =
      let shift := if whole < 2 * leadingBit then 0 else Nat.log2 whole - 52
      min (shift * leadingBit + roundDiv (num * unitsPerOne) (den * 2 ^ shift)) infinityCode := by
    simp only [nearestCode, hscaled, hwhole, Nat.shiftLeft_eq]
  refine ⟨_, hcode, ?_⟩
  by_cases hsmall : whole < 2 * leadingBit
  · rw [if_pos hsmall, Nat.pow_zero, Nat.mul_one]
    exact ⟨Nat.lt_of_lt_of_le hless (Nat.mul_le_mul_right den hsmall), Or.inl rfl⟩
  · rw [if_neg hsmall]
    have hne : whole ≠ 0 := by
      rw [leadingBit_eq] at hsmall
      omega
    have hlog : 52 ≤ whole.log2 := by
      rw [Nat.le_log2 hne]
      rw [leadingBit_eq] at hsmall
      omega
    obtain ⟨hlow, hhigh⟩ := (Nat.log2_eq_iff hne).1 rfl
    have hsplit : 2 ^ whole.log2 = leadingBit * 2 ^ (whole.log2 - 52) := by
      rw [leadingBit_eq, ← Nat.pow_add, Nat.add_sub_cancel' hlog]
    constructor
    · calc num * unitsPerOne < (whole + 1) * den := hless
        _ ≤ 2 ^ (whole.log2 + 1) * den := Nat.mul_le_mul_right den hhigh
        _ = 2 * leadingBit * (den * 2 ^ (whole.log2 - 52)) := by
          rw [Nat.pow_succ, hsplit]
          ring
    · right
      calc leadingBit * (den * 2 ^ (whole.log2 - 52)) = 2 ^ whole.log2 * den := by
            rw [hsplit]
            ring
        _ ≤ whole * den := Nat.mul_le_mul_right den hlow
        _ ≤ num * unitsPerOne := hmore

/-- A number of units, given as a quotient, is rounded to the code or a smaller one: it is less than
halfway to the next code, or at half the way and the code is even. -/
def IsWithin (scaled den code : ℕ) : Prop :=
  2 * scaled < (units code + units (code + 1)) * den ∨
    2 * scaled = (units code + units (code + 1)) * den ∧ code % 2 = 0

theorem isWithin_of_lt {scaled den code : ℕ} (h : scaled < units code * den) :
    IsWithin scaled den code := by
  have hnext : units code * den ≤ units (code + 1) * den :=
    Nat.mul_le_mul_right den (Nat.le_of_lt (units_lt_succ code))
  refine Or.inl ?_
  rw [Nat.add_mul]
  omega

theorem not_isWithin_of_le {scaled den code : ℕ} (hden : 0 < den)
    (h : units (code + 1) * den ≤ scaled) : ¬IsWithin scaled den code := by
  have hnext : units code * den < units (code + 1) * den :=
    Nat.mul_lt_mul_of_pos_right (units_lt_succ code) hden
  simp only [IsWithin, Nat.add_mul]
  omega

/-- Within the codes of one step the significand alone is rounded. -/
theorem isWithin_window {scaled den shift k : ℕ} (hden : 0 < den)
    (hlow : shift = 0 ∨ leadingBit ≤ k) (hhigh : k < 2 * leadingBit) :
    IsWithin scaled den (shift * leadingBit + k) ↔ roundDiv scaled (den * 2 ^ shift) ≤ k := by
  have hstep : 0 < den * 2 ^ shift := Nat.mul_pos hden (Nat.two_pow_pos shift)
  have heven : leadingBit % 2 = 0 := by decide
  have hparity : (shift * leadingBit + k) % 2 = k % 2 := by
    rw [Nat.add_mod, Nat.mul_mod, heven]
    omega
  have hpoint : (units (shift * leadingBit + k) + units (shift * leadingBit + k + 1)) * den =
      (2 * k + 1) * (den * 2 ^ shift) := by
    rw [Nat.add_assoc, units_window hlow (Nat.le_of_lt hhigh),
      units_window (k := k + 1) (by omega) hhigh]
    ring
  rw [IsWithin, hpoint, hparity, roundDiv_le_iff hstep]

theorem nearestCode_le_iff {num den code : ℕ} (hden : 0 < den) (hcode : code < infinityCode) :
    nearestCode num den ≤ code ↔ IsWithin (num * unitsPerOne) den code := by
  obtain ⟨shift, heq, hupper, hlower⟩ := exists_nearestCode_eq num hden
  have hstep : 0 < den * 2 ^ shift := Nat.mul_pos hden (Nat.two_pow_pos shift)
  have hmul (n : ℕ) : n * 2 ^ shift * den = n * (den * 2 ^ shift) := by ring
  rw [heq, min_le_iff, or_iff_left (Nat.not_le_of_lt hcode)]
  generalize num * unitsPerOne = scaled at hupper hlower ⊢
  by_cases hbelow : shift ≠ 0 ∧ code < shift * leadingBit + leadingBit
  · -- the code is too small for a significand with its leading bit
    have hscaled := hlower.resolve_left hbelow.1
    have hround : leadingBit ≤ roundDiv scaled (den * 2 ^ shift) :=
      Nat.le_trans ((Nat.le_div_iff_mul_le hstep).2 hscaled) (le_roundDiv _ _)
    have hnext : units (code + 1) ≤ leadingBit * 2 ^ shift := by
      rw [← units_window (Or.inr (Nat.le_refl leadingBit)) (by omega)]
      exact units_strictMono.monotone hbelow.2
    have hless : units (code + 1) * den ≤ scaled :=
      Nat.le_trans (Nat.mul_le_mul_right den hnext) (hmul leadingBit ▸ hscaled)
    exact iff_of_false (by omega) (not_isWithin_of_le hden hless)
  · by_cases habove : shift * leadingBit + 2 * leadingBit ≤ code
    · -- the code is beyond every significand of this size
      have hround : roundDiv scaled (den * 2 ^ shift) ≤ 2 * leadingBit := by
        have hquotient := (Nat.div_lt_iff_lt_mul hstep).2 hupper
        exact Nat.le_trans (roundDiv_le _ _) hquotient
      have hunits : 2 * leadingBit * 2 ^ shift ≤ units code := by
        have hlead : leadingBit ≤ 2 * leadingBit := by omega
        rw [← units_window (Or.inr hlead) (Nat.le_refl _)]
        exact units_strictMono.monotone habove
      have hmore : scaled < units code * den :=
        Nat.lt_of_lt_of_le (hmul (2 * leadingBit) ▸ hupper) (Nat.mul_le_mul_right den hunits)
      exact iff_of_true (by omega) (isWithin_of_lt hmore)
    · obtain ⟨k, hk⟩ : ∃ k, code = shift * leadingBit + k := by
        apply Nat.exists_eq_add_of_le
        by_cases hshift : shift = 0
        · rw [hshift, Nat.zero_mul]
          exact Nat.zero_le code
        · omega
      rw [hk, isWithin_window hden (by omega) (by omega)]
      omega

/-! ### Rational numbers -/

/-- The point halfway between the magnitude of a code and the next one. -/
def midpoint (code : ℕ) : ℚ := (magnitude code + magnitude (code + 1)) / 2

theorem midpoint_pos (code : ℕ) : 0 < midpoint code := by
  have hless := magnitude_strictMono (Nat.lt_succ_self code)
  have hnonneg := magnitude_nonneg code
  rw [midpoint]
  linarith

/-- A number from zero on is rounded to the code or a smaller one. -/
def RoundsWithin (q : ℚ) (code : ℕ) : Prop :=
  q < midpoint code ∨ q = midpoint code ∧ code % 2 = 0

theorem roundsWithin_div_iff (num : ℕ) {den : ℕ} (hden : 0 < den) (code : ℕ) :
    RoundsWithin (num / den) code ↔ IsWithin (num * unitsPerOne) den code := by
  have hden' : (0 : ℚ) < den := by exact_mod_cast hden
  have hunits : (0 : ℚ) < 2 * unitsPerOne := by exact_mod_cast Nat.mul_pos two_pos unitsPerOne_pos
  have hpoint : midpoint code =
      ((units code + units (code + 1) : ℕ) : ℚ) / (2 * unitsPerOne) := by
    rw [midpoint, magnitude, magnitude, ← add_div, div_div, mul_comm, Nat.cast_add]
  have hscaled : (num : ℚ) * (2 * unitsPerOne) = ((2 * (num * unitsPerOne) : ℕ) : ℚ) := by
    push_cast
    ring
  rw [RoundsWithin, IsWithin, hpoint, div_lt_div_iff₀ hden' hunits,
    div_eq_div_iff hden'.ne' hunits.ne', hscaled]
  norm_cast

theorem IsWithin.of_zero {scaled den : ℕ} (hden : 0 < den) (h : IsWithin scaled den 0) (code : ℕ) :
    IsWithin scaled den code := by
  cases code with
  | zero => exact h
  | succ code =>
    have hunits : units 0 + units (0 + 1) = 1 := by decide
    have hle : 1 * den ≤ units (code + 1) * den :=
      Nat.mul_le_mul_right den (Nat.lt_of_le_of_lt (Nat.zero_le _) (units_lt_succ code))
    apply isWithin_of_lt
    rw [IsWithin, hunits] at h
    omega

theorem two_pow_le_ten_pow {m n : ℕ} (h : 10 * m ≤ 33 * n) : 2 ^ m ≤ 10 ^ n := by
  have hpower : (2 ^ m) ^ 10 ≤ (10 ^ n) ^ 10 :=
    calc (2 ^ m) ^ 10 = 2 ^ (10 * m) := by rw [← Nat.pow_mul, Nat.mul_comm]
      _ ≤ 2 ^ (33 * n) := Nat.pow_le_pow_right (by decide) h
      _ = (2 ^ 33) ^ n := Nat.pow_mul 2 33 n
      _ ≤ (10 ^ 10) ^ n := Nat.pow_le_pow_left (by decide) n
      _ = (10 ^ n) ^ 10 := by rw [← Nat.pow_mul, ← Nat.pow_mul, Nat.mul_comm]
  exact (Nat.pow_le_pow_iff_left (by decide)).1 hpower

theorem two_pow_mul_unitsPerOne {m n : ℕ} (h : m + 1074 = n) : 2 ^ m * unitsPerOne = 2 ^ n := by
  obtain ⟨k, hk⟩ : ∃ k, k = 1074 := ⟨1074, rfl⟩
  have hunits : unitsPerOne = 2 ^ k * 2 ^ 0 := unitsPerOne_eq hk
  rw [hunits, Nat.pow_zero, Nat.mul_one, ← Nat.pow_add, hk, h]

/-- No finite magnitude is beyond `2 ^ 1024`. -/
theorem units_le_two_pow {code : ℕ} (hcode : code ≤ infinityCode) :
    units code ≤ 2 ^ 1024 * unitsPerOne := by
  obtain ⟨q, hq⟩ : ∃ q, q = 2046 := ⟨2046, rfl⟩
  have hinfinity : infinityCode = (q + 1) * leadingBit + 0 := by rw [hq]; rfl
  have htop : units infinityCode = 2 ^ (52 + q) := by
    rw [hinfinity, units_normal (by decide), Nat.add_zero, leadingBit_eq, ← Nat.pow_add]
  calc units code ≤ units infinityCode := units_strictMono.monotone hcode
    _ = 2 ^ 1024 * unitsPerOne := by rw [htop, two_pow_mul_unitsPerOne (n := 52 + q) (by omega)]

end Binary64

namespace Decimal

open Binary64

/-- A power of ten that is out of reach lies below half of the least magnitude. -/
theorem isWithin_zero_of_lt {significand e : ℕ} (h : Nat.log2 significand + 400 < e) :
    IsWithin (significand * unitsPerOne) (10 ^ e) 0 := by
  obtain ⟨j, hj⟩ : ∃ j, e = Nat.log2 significand + 1 + j := Nat.exists_eq_add_of_le (by omega)
  have hunits : units 0 + units (0 + 1) = 1 := by decide
  have hsignificand : significand < 10 ^ (Nat.log2 significand + 1) :=
    Nat.lt_of_lt_of_le Nat.lt_log2_self (two_pow_le_ten_pow (by omega))
  have hten : 2 * unitsPerOne ≤ 10 ^ j := by
    rw [← Nat.pow_one 2, two_pow_mul_unitsPerOne rfl]
    exact two_pow_le_ten_pow (by omega)
  left
  rw [hunits]
  calc 2 * (significand * unitsPerOne) = significand * (2 * unitsPerOne) := by ring
    _ < 10 ^ (Nat.log2 significand + 1) * 10 ^ j :=
      Nat.mul_lt_mul_of_lt_of_le hsignificand hten (Nat.pow_pos (by decide))
    _ = 1 * 10 ^ e := by rw [Nat.one_mul, ← Nat.pow_add, ← hj]

theorem le_iff_of_whole {significand code : ℕ} (hzero : significand ≠ 0) (e : ℕ)
    (hcode : code < infinityCode) :
    (if 400 < e then infinityCode else nearestCode (significand * 10 ^ e) 1) ≤ code ↔
      RoundsWithin (significand * 10 ^ (e : ℤ)) code := by
  have hquotient : (significand * 10 ^ (e : ℤ) : ℚ) =
      ((significand * 10 ^ e : ℕ) : ℚ) / ((1 : ℕ) : ℚ) := by
    rw [zpow_natCast, Nat.cast_one, div_one]
    push_cast
    rfl
  rw [hquotient, roundsWithin_div_iff _ Nat.one_pos]
  by_cases hlarge : 400 < e
  · have hpower : 2 ^ 1024 ≤ significand * 10 ^ e :=
      Nat.le_trans (two_pow_le_ten_pow (by omega)) (Nat.le_mul_of_pos_left _ (by omega))
    have hless : units (code + 1) * 1 ≤ significand * 10 ^ e * unitsPerOne := by
      rw [Nat.mul_one]
      exact Nat.le_trans (units_le_two_pow hcode) (Nat.mul_le_mul_right _ hpower)
    rw [if_pos hlarge]
    exact iff_of_false (Nat.not_le_of_lt hcode) (not_isWithin_of_le Nat.one_pos hless)
  · rw [if_neg hlarge]
    exact nearestCode_le_iff Nat.one_pos hcode

theorem le_iff_of_fraction (significand e : ℕ) {code : ℕ} (hcode : code < infinityCode) :
    (if Nat.log2 significand + 400 < e then 0 else nearestCode significand (10 ^ e)) ≤ code ↔
      RoundsWithin (significand * 10 ^ (-(e : ℤ))) code := by
  have hten : 0 < 10 ^ e := Nat.pow_pos (by decide)
  have hquotient : (significand * 10 ^ (-(e : ℤ)) : ℚ) =
      (significand : ℚ) / ((10 ^ e : ℕ) : ℚ) := by
    rw [zpow_neg, zpow_natCast, div_eq_mul_inv]
    push_cast
    rfl
  rw [hquotient, roundsWithin_div_iff _ hten]
  by_cases hsmall : Nat.log2 significand + 400 < e
  · rw [if_pos hsmall]
    exact iff_of_true (Nat.zero_le _) ((isWithin_zero_of_lt hsmall).of_zero hten code)
  · rw [if_neg hsmall]
    exact nearestCode_le_iff hten hcode

/-- A decimal is rounded to the nearest magnitude, the even one of two. -/
theorem code_le_iff (d : Decimal) {code : ℕ} (hcode : code < infinityCode) :
    d.toBinary64.code ≤ code ↔ RoundsWithin |d.value| code := by
  rw [abs_value]
  simp only [toBinary64]
  by_cases hzero : d.significand = 0
  · rw [if_pos hzero, hzero, Nat.cast_zero, zero_mul]
    exact iff_of_true (Nat.zero_le _) (Or.inl (midpoint_pos code))
  · rw [if_neg hzero]
    by_cases hexponent : 0 ≤ d.exponent
    · have hwhole := le_iff_of_whole hzero d.exponent.toNat hcode
      rw [Int.toNat_of_nonneg hexponent] at hwhole
      rw [if_pos hexponent]
      exact hwhole
    · have hfraction := le_iff_of_fraction d.significand (-d.exponent).toNat hcode
      rw [Int.toNat_of_nonneg (by omega), neg_neg] at hfraction
      rw [if_neg hexponent]
      exact hfraction

end Decimal

end FormRules
