import FormRules.Proofs.Number.Sign

/-!
# The nearest number

The number that a decimal rounds to is at least as near to it as every other finite number, and of
two that are equally near it is the even one.  Rounding keeps the order of what it rounds.
-/

namespace FormRules

namespace Binary64

variable {p q : ℚ} {code other : ℕ} {x y : Binary64}

theorem RoundsWithin.mono (h : RoundsWithin q code) (hle : p ≤ q) : RoundsWithin p code := by
  rcases h with h | ⟨h, heven⟩
  · exact Or.inl (lt_of_le_of_lt hle h)
  · rcases lt_or_eq_of_le hle with hless | heq
    · exact Or.inl (h ▸ hless)
    · exact Or.inr ⟨heq.trans h, heven⟩

/-! ### Magnitudes -/

/-- A magnitude is rounded to the code. -/
def RoundsTo (q : ℚ) (code : ℕ) : Prop :=
  RoundsWithin q code ∧ ∀ other, other < code → ¬RoundsWithin q other

theorem RoundsWithin.le_midpoint (h : RoundsWithin q code) : q ≤ midpoint code :=
  h.elim le_of_lt fun h => le_of_eq h.1

theorem RoundsWithin.of_le (h : RoundsWithin q code) (hle : code ≤ other) :
    RoundsWithin q other := by
  rcases Nat.lt_or_eq_of_le hle with hless | rfl
  · have hthis := magnitude_strictMono hless
    have hnext := magnitude_strictMono (Nat.succ_lt_succ hless)
    have hpoint := h.le_midpoint
    left
    rw [midpoint] at hpoint ⊢
    linarith
  · exact h

theorem midpoint_le_of_not_roundsWithin (h : ¬RoundsWithin q code) : midpoint code ≤ q :=
  not_lt.1 fun hless => h (Or.inl hless)

theorem RoundsTo.pos (h : RoundsTo q code) (hcode : 0 < code) : 0 < q := by
  have hpoint := midpoint_le_of_not_roundsWithin (h.2 0 hcode)
  linarith [midpoint_pos 0]

/-- No magnitude is nearer than the one of the rounded code, and another that is as near is there
only if the rounded code is even. -/
theorem RoundsTo.nearest (h : RoundsTo q code) (other : ℕ) :
    |magnitude code - q| ≤ |magnitude other - q| ∧
      (|magnitude other - q| = |magnitude code - q| → other = code ∨ code % 2 = 0) := by
  rcases Nat.lt_trichotomy other code with hless | heq | hmore
  · -- the number lies at or above the point halfway to the code below
    obtain ⟨below, hbelow⟩ := Nat.exists_eq_succ_of_ne_zero (Nat.ne_zero_of_lt hless)
    subst hbelow
    have hout := h.2 below (Nat.lt_succ_self below)
    have hpoint := midpoint_le_of_not_roundsWithin hout
    have hmagnitude : magnitude other ≤ magnitude below :=
      magnitude_strictMono.monotone (Nat.le_of_lt_succ hless)
    have hstep := magnitude_strictMono (Nat.lt_succ_self below)
    rw [midpoint] at hpoint
    have hother : |magnitude other - q| = q - magnitude other := by
      rw [abs_sub_comm, abs_of_nonneg]
      linarith
    have hcode : |magnitude (below + 1) - q| ≤ q - magnitude below := by
      rw [abs_le]
      constructor <;> linarith
    refine ⟨by linarith, fun heq => Or.inr ?_⟩
    have hhalf : q = midpoint below := by
      rw [midpoint]
      by_contra hne
      have hbeyond : (magnitude below + magnitude (below + 1)) / 2 < q :=
        lt_of_le_of_ne hpoint (Ne.symm hne)
      have hnear : |magnitude (below + 1) - q| < q - magnitude below := by
        rw [abs_lt]
        constructor <;> linarith
      linarith
    have hodd : below % 2 ≠ 0 := fun heven => hout (Or.inr ⟨hhalf, heven⟩)
    omega
  · rw [heq]
    exact ⟨le_rfl, fun _ => Or.inl rfl⟩
  · -- the number lies at or below the point halfway to the code above
    have hpoint := h.1.le_midpoint
    have hmagnitude : magnitude (code + 1) ≤ magnitude other :=
      magnitude_strictMono.monotone hmore
    have hstep := magnitude_strictMono (Nat.lt_succ_self code)
    rw [midpoint] at hpoint
    have hother : |magnitude other - q| = magnitude other - q := by
      rw [abs_of_nonneg]
      linarith
    have hcode : |magnitude code - q| ≤ magnitude (code + 1) - q := by
      rw [abs_le]
      constructor <;> linarith
    refine ⟨by linarith, fun heq => Or.inr ?_⟩
    rcases h.1 with hbelow | ⟨-, heven⟩
    · rw [midpoint] at hbelow
      have hnear : |magnitude code - q| < magnitude (code + 1) - q := by
        rw [abs_lt]
        constructor <;> linarith
      linarith
    · exact heven

/-! ### Numbers with a sign -/

/-- The finite number nearest to a rational number, the even one of two.  Zero has no sign. -/
structure IsNearest (x : Binary64) (q : ℚ) : Prop where
  isFinite : x.isFinite = true
  sign : x.negative = decide (q < 0)
  nearest : ∀ y : Binary64, y.isFinite = true → |x.value - q| ≤ |y.value - q|
  even : ∀ y : Binary64, y.isFinite = true → |y.value - q| = |x.value - q| → y.value ≠ x.value →
    x.code % 2 = 0

theorem isFinite_iff : x.isFinite = true ↔ x.code < infinityCode := decide_eq_true_iff

/-- The distance from a number on the same side of zero. -/
theorem abs_value_sub (hsign : y.negative = decide (q < 0)) :
    |y.value - q| = |magnitude y.code - (|q|)| := by
  rw [value, hsign]
  by_cases hq : q < 0
  · rw [decide_eq_true hq, if_pos rfl, abs_of_neg hq, ← abs_neg]
    ring_nf
  · rw [decide_eq_false hq, if_neg Bool.false_ne_true, abs_of_nonneg (not_lt.1 hq), one_mul]

/-- A number on the other side of zero is no nearer than zero. -/
theorem abs_value_sub_of_ne (hsign : y.negative ≠ decide (q < 0)) :
    |y.value - q| = magnitude y.code + |q| := by
  have hmagnitude := magnitude_nonneg y.code
  rw [value]
  by_cases hq : q < 0
  · rw [decide_eq_true hq] at hsign
    rw [Bool.eq_false_iff.2 hsign, if_neg Bool.false_ne_true, one_mul, abs_of_neg hq,
      abs_of_nonneg]
    · ring
    · linarith
  · rw [decide_eq_false hq] at hsign
    rw [Bool.eq_true_of_not_eq_false hsign, if_pos rfl, abs_of_nonneg (not_lt.1 hq),
      abs_of_nonpos]
    · ring
    · linarith

theorem RoundsTo.isNearest (h : RoundsTo |q| x.code) (hfinite : x.isFinite = true)
    (hsign : x.negative = decide (q < 0)) : x.IsNearest q := by
  have hzero : |magnitude 0 - (|q|)| = |q| := by rw [magnitude_zero, zero_sub, abs_neg, abs_abs]
  have hx := abs_value_sub (y := x) hsign
  refine ⟨hfinite, hsign, fun y _ => ?_, fun y _ heq hne => ?_⟩
  · rw [hx]
    by_cases hside : y.negative = decide (q < 0)
    · rw [abs_value_sub hside]
      exact (h.nearest y.code).1
    · have hnonneg := magnitude_nonneg y.code
      have hnear := (h.nearest 0).1
      rw [hzero] at hnear
      rw [abs_value_sub_of_ne hside]
      linarith
  · rw [hx] at heq
    by_cases hside : y.negative = decide (q < 0)
    · rw [abs_value_sub hside] at heq
      refine ((h.nearest y.code).2 heq).resolve_left fun hcode => hne ?_
      rw [value, value, hcode, hside, hsign]
    · -- then the other number is zero, which is as near
      have hnonneg := magnitude_nonneg y.code
      obtain ⟨hnear, heven⟩ := h.nearest 0
      rw [hzero] at hnear heven
      rw [abs_value_sub_of_ne hside] at heq
      have hy : magnitude y.code = 0 := by linarith
      refine (heven (by linarith)).resolve_left fun hcode => hne ?_
      rw [value, value, hy, ← hcode, magnitude_zero, mul_zero, mul_zero]

end Binary64

namespace Decimal

open Binary64

variable {d e : Decimal}

theorem roundsTo (hfinite : d.toBinary64.isFinite = true) :
    RoundsTo |d.value| d.toBinary64.code := by
  have hcode := isFinite_iff.1 hfinite
  refine ⟨(d.code_le_iff hcode).1 (Nat.le_refl _), fun other hless hwithin => ?_⟩
  have hle := (d.code_le_iff (Nat.lt_trans hless hcode)).2 hwithin
  omega

theorem code_of_roundsTo {code : ℕ} (h : RoundsTo |d.value| code) (hcode : code < infinityCode) :
    d.toBinary64.code = code := by
  have hle := (d.code_le_iff hcode).2 h.1
  by_contra hne
  have hless : d.toBinary64.code < code := by omega
  exact h.2 _ hless ((d.code_le_iff (by omega)).1 (Nat.le_refl _))

/-- A number that is not zero shows the sign of its decimal. -/
theorem negative_of_ne_zero (h : d.value ≠ 0) : d.negative = decide (d.value < 0) := by
  have hpos := abs_pos.2 h
  have hvalue := d.value_eq_abs
  cases hsign : d.negative with
  | false =>
    rw [hsign, if_neg Bool.false_ne_true] at hvalue
    exact (decide_eq_false (by linarith)).symm
  | true =>
    rw [hsign, if_pos rfl] at hvalue
    exact (decide_eq_true (by linarith)).symm

theorem code_mono (h : |d.value| ≤ |e.value|) : d.toBinary64.code ≤ e.toBinary64.code := by
  rcases Nat.lt_or_ge e.toBinary64.code infinityCode with hfinite | hinfinite
  · rw [d.code_le_iff hfinite]
    exact ((e.code_le_iff hfinite).1 (Nat.le_refl _)).mono h
  · exact Nat.le_trans d.toBinary64_code_le hinfinite

/-- Rounding keeps the order, also where it overflows or where small numbers become zero. -/
theorem toBinary64_mono (h : d.value ≤ e.value) : d.toBinary64.le e.toBinary64 = true := by
  have hd := d.value_eq_abs
  have he := e.value_eq_abs
  have hdnonneg := abs_nonneg d.value
  have henonneg := abs_nonneg e.value
  rw [le_iff_rank d.toBinary64_isNaN e.toBinary64_isNaN]
  simp only [rank, toBinary64_negative]
  by_cases hdsign : d.negative = true <;> by_cases hesign : e.negative = true <;>
    simp only [hdsign, hesign, if_true, Bool.false_eq_true, if_false] at hd he ⊢
  · exact Int.neg_le_neg (Int.ofNat_le.2 (code_mono (by linarith)))
  · omega
  · -- a number from zero on is at most one up to zero only if both are zero
    have hdzero : |d.value| = 0 := by linarith
    have hezero : |e.value| = 0 := by linarith
    have hdcode := d.code_eq_zero_iff.2 (by rw [hdzero]; exact vanishing_nonneg)
    have hecode := e.code_eq_zero_iff.2 (by rw [hezero]; exact vanishing_nonneg)
    omega
  · exact Int.ofNat_le.2 (code_mono (by linarith))

end Decimal

end FormRules
