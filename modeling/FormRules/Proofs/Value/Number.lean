import FormRules.Proofs.Criterion.Number
import FormRules.Proofs.Form.Range
import FormRules.Proofs.Number.Rendering
import FormRules.Value.OfJson

/-!
# Numbers become text

A number becomes a text in two ways, without an exponent or in the form of data documents.  Both
texts are read as the number itself, if that is a floating-point number, and as the nearest one, if
it is a whole number of 64 bits.  So the two are judged alike.
-/

namespace FormRules

open FormRules.Numeral FormRules.Binary64

variable {text : String} {x : Binary64} {q : ℚ}

/-! ### The number that a text is read as -/

theorem numberOf?_of_roundsTo (hq : RoundsTo q x.code) (hpos : 0 < x.code)
    (hcode : x.code < infinityCode)
    (h : Denotes text.toList ((if x.negative then -1 else 1) * q)) : numberOf? text = some x := by
  obtain ⟨d, hvalue, hread⟩ := h.exists_toBinary64
  have hqpos := hq.pos hpos
  have habs : |d.value| = q := by
    rw [hvalue]
    cases x.negative <;> simp [abs_of_pos hqpos]
  -- only zero would not show its sign
  have hsign : d.negative = x.negative := by
    have hne : d.value ≠ 0 := by
      rw [← abs_pos, habs]
      exact hqpos
    rw [Decimal.negative_of_ne_zero hne, hvalue]
    cases x.negative <;> simp [hqpos, hqpos.le]
  have hbits : d.toBinary64.code = x.code := Decimal.code_of_roundsTo (habs.symm ▸ hq) hcode
  rw [hread]
  exact congrArg some (congrArg₂ Binary64.mk hsign hbits)

/-! ### Texts of floating-point numbers -/

theorem numberOf?_of_code_eq_zero (hzero : x.code = 0) :
    numberOf? x.plainText = some x ∧ numberOf? x.documentText = some x := by
  obtain ⟨negative, code⟩ := x
  obtain rfl : code = 0 := hzero
  cases negative <;> decide +kernel

theorem numberOf?_of_isFinite (h : x.isFinite = true) :
    numberOf? x.plainText = some x ∧ numberOf? x.documentText = some x := by
  have hcode := isFinite_iff.1 h
  rcases Nat.eq_zero_or_pos x.code with hzero | hpos
  · exact numberOf?_of_code_eq_zero hzero
  · obtain ⟨p, hp, hplain⟩ := exists_denotes_plainText hpos hcode
    obtain ⟨q, hq, hdocument⟩ := exists_denotes_documentText hpos hcode
    exact ⟨numberOf?_of_roundsTo hp hpos hcode hplain,
      numberOf?_of_roundsTo hq hpos hcode hdocument⟩

theorem isNumeric_of_not_isFinite (h : x.isFinite = false) : isNumeric x.plainText = false := by
  have hcode : ¬x.code < infinityCode := of_decide_eq_false h
  have htext : x.plainText = "NaN" ∨ x.plainText = "inf" ∨ x.plainText = "-inf" := by
    by_cases hnumber : x.isNaN = true
    · exact Or.inl (if_pos hnumber)
    · have hinfinite : x.code = infinityCode := by
        rw [isNaN, decide_eq_true_eq] at hnumber
        omega
      rw [plainText, if_neg hnumber, if_pos hinfinite, signText]
      cases x.negative
      · exact Or.inr (Or.inl rfl)
      · exact Or.inr (Or.inr rfl)
  rcases htext with heq | heq | heq <;> rw [heq] <;> decide +kernel

/-! ### Texts of whole numbers -/

/-- Whole numbers of 64 bits are far below infinity. -/
theorem roundsWithin_of_le {q : ℚ} (h : q ≤ 2 ^ 64) :
    ∃ code < infinityCode, RoundsWithin q code := by
  obtain ⟨k, hk⟩ : ∃ k, 12 + 1074 = k := ⟨_, rfl⟩
  obtain ⟨code, hcode, hunits⟩ := exists_code_mul (m := leadingBit) (by decide) k (by omega)
  refine ⟨code, hcode, Or.inl ?_⟩
  have hone : (unitsPerOne : ℚ) ≠ 0 := by exact_mod_cast unitsPerOne_pos.ne'
  have hmagnitude : magnitude code = 2 ^ 64 := by
    rw [magnitude, hunits, ← two_pow_mul_unitsPerOne hk, leadingBit_eq]
    push_cast
    field_simp
    norm_num
  have hnext := magnitude_strictMono (Nat.lt_succ_self code)
  rw [Binary64.midpoint]
  linarith

theorem exists_isNearest {n : ℤ} (hn : |(n : ℚ)| ≤ 2 ^ 64) :
    ∃ x, numberOf? (toString n) = some x ∧ x.IsNearest n := by
  obtain ⟨d, hvalue, hread⟩ := (denotes_toString n).exists_toBinary64
  obtain ⟨code, hcode, hwithin⟩ := roundsWithin_of_le hn
  rw [← hvalue] at hwithin
  have hfinite : d.toBinary64.isFinite = true :=
    isFinite_iff.2 (Nat.lt_of_le_of_lt ((d.code_le_iff hcode).2 hwithin) hcode)
  have hsign : d.negative = decide ((n : ℚ) < 0) := by
    by_cases hzero : n = 0
    · -- the sign of zero is that of its digits
      subst hzero
      have hdigits : numberOf? (toString (0 : ℤ)) = some ⟨false, 0⟩ := by decide +kernel
      rw [hread, Option.some.injEq] at hdigits
      rw [← d.toBinary64_negative, hdigits]
      simp
    · have hne : d.value ≠ 0 := by
        rw [hvalue]
        exact_mod_cast hzero
      rw [Decimal.negative_of_ne_zero hne, hvalue]
  exact ⟨d.toBinary64, hread, RoundsTo.isNearest (hvalue ▸ Decimal.roundsTo hfinite) hfinite hsign⟩

/-! ### Values -/

namespace Value

variable {v w : Value}

/-- The value is a numeric text and is read as the number. -/
def IsReadAs (v : Value) (x : Binary64) : Prop :=
  ∃ text, v = .scalar text ∧ isNumeric text = true ∧ numberOf? text = some x

/-- No rule text for numbers tells the values apart. -/
def IsAlike (v w : Value) : Prop :=
  ∀ rules : String, (Rules.ofText rules).fieldType = .number →
    (Constraint.rules rules).permits v = (Constraint.rules rules).permits w

theorem isReadAs_scalar (h : numberOf? text = some x) : IsReadAs (.scalar text) x :=
  ⟨text, rfl, isNumeric_of_numberOf? h, h⟩

/-- Under rules for numbers the verdict is about the number. -/
theorem IsReadAs.permits_eq (h : v.IsReadAs x) {rules : String}
    (hrules : (Rules.ofText rules).fieldType = .number) :
    (Constraint.rules rules).permits v =
      (!((Rules.ofText rules).positive && x.lt .zero) &&
        !((Rules.ofText rules).negative && Binary64.zero.lt x) &&
        !((Rules.ofText rules).nonzero && x.isZero) && (Rules.ofText rules).admits x) := by
  obtain ⟨text, rfl, -, hread⟩ := h
  have hgiven : FieldType.isGiven .number (.scalar text) = true := by
    have hdef : FieldType.isGiven .number (.scalar text) = !text.isEmpty := rfl
    rw [hdef, Bool.not_eq_true', String.isEmpty_eq_false_iff]
    rintro rfl
    have hnone : numberOf? "" = none := by decide +kernel
    rw [hnone] at hread
    exact nomatch hread
  simp [Constraint.permits, hrules, hgiven, Rules.accepts, FieldType.criterion?, Criterion.accepts,
    Criterion.acceptsNumber, hread]

theorem IsReadAs.isAlike (hv : v.IsReadAs x) (hw : w.IsReadAs x) : v.IsAlike w := by
  intro rules hrules
  rw [hv.permits_eq hrules, hw.permits_eq hrules]

/-- Of a number of 64 bits, whole or floating-point, the text without an exponent and the text in
the form of data documents are read as the nearest floating-point number, and no rules for numbers
tell the two apart.  What is not finite does not become numeric. -/
theorem numbers_survive :
    (∀ n : ℤ, -2 ^ 63 ≤ n → n < 2 ^ 64 →
      ∃ x v, ofJson? (.number (.integer n)) = some v ∧ x.IsNearest n ∧ (ofInt n).IsReadAs x ∧
        v.IsReadAs x ∧ (ofInt n).IsAlike v) ∧
    (∀ x : Binary64, x.isFinite = true →
      ∃ v, ofJson? (.number (.float x)) = some v ∧ (ofBinary64 x).IsReadAs x ∧ v.IsReadAs x ∧
        (ofBinary64 x).IsAlike v) ∧
    ∀ x : Binary64, x.isFinite = false →
      ∃ text, ofBinary64 x = .scalar text ∧ isNumeric text = false := by
  refine ⟨fun n hlow hhigh => ?_, fun x hx => ?_, fun x hx => ?_⟩
  · have hn : |(n : ℚ)| ≤ 2 ^ 64 := by
      rw [abs_le]
      constructor
      · exact_mod_cast (by omega : -2 ^ 64 ≤ n)
      · exact_mod_cast hhigh.le
    obtain ⟨x, hread, hnearest⟩ := exists_isNearest hn
    have hvalue : (ofInt n).IsReadAs x := isReadAs_scalar hread
    exact ⟨x, .scalar (toString n), by rw [ofJson?]; rfl, hnearest, hvalue, hvalue,
      hvalue.isAlike hvalue⟩
  · obtain ⟨hplain, hdocument⟩ := numberOf?_of_isFinite hx
    have hvalue : (ofBinary64 x).IsReadAs x := isReadAs_scalar hplain
    exact ⟨.scalar x.documentText, by rw [ofJson?]; rfl, hvalue, isReadAs_scalar hdocument,
      hvalue.isAlike (isReadAs_scalar hdocument)⟩
  · exact ⟨x.plainText, rfl, isNumeric_of_not_isFinite hx⟩

/-- The greatest whole number, which is rounded up, the least magnitude, below zero, and what is not
finite. -/
theorem numbers_survive_extremes :
    (∃ x v, ofJson? (.number (.integer (2 ^ 64 - 1))) = some v ∧
        x.IsNearest ((2 ^ 64 - 1 : ℤ) : ℚ) ∧ (ofInt (2 ^ 64 - 1)).IsReadAs x ∧ v.IsReadAs x) ∧
      (∃ v, ofJson? (.number (.float ⟨true, 1⟩)) = some v ∧
        (ofBinary64 ⟨true, 1⟩).IsReadAs ⟨true, 1⟩ ∧ (ofBinary64 ⟨true, 1⟩).IsAlike v) ∧
      ∃ text, ofBinary64 ⟨true, infinityCode⟩ = .scalar text ∧ isNumeric text = false := by
  obtain ⟨hwhole, hfinite, hinfinite⟩ := numbers_survive
  obtain ⟨x, v, hv, hnearest, hread, hreadJson, -⟩ :=
    hwhole (2 ^ 64 - 1) (by decide) (by decide)
  obtain ⟨w, hw, hsame, -, halike⟩ := hfinite ⟨true, 1⟩ (by decide)
  exact ⟨⟨x, v, hv, hnearest, hread, hreadJson⟩, ⟨w, hw, hsame, halike⟩,
    hinfinite ⟨true, infinityCode⟩ (by decide)⟩

/-- The two notations of one number. -/
example : Binary64.plainText ⟨true, 0x4350000000000001⟩ = "-18014398509481988" ∧
    Binary64.documentText ⟨true, 0x4350000000000001⟩ = "-1.8014398509481988e+16" := by
  decide +kernel

end Value

end FormRules
