import FormRules.Criterion
import FormRules.Proofs.Number.Sign

/-!
# Numbers under rules

The criterion of numbers refuses what lies on the wrong side of zero, and the sign predicates accept
what lies on the right side.  Both come to the same, since nothing is read as something that is no
number.
-/

namespace FormRules

open Binary64

section Signs

variable {text : String} {x : Binary64} (h : numberOf? text = some x)

include h

theorem isNumeric_of_numberOf? : isNumeric text = true := by rw [isNumeric, h, Option.isSome_some]

theorem isNonnegative_of_numberOf? : isNonnegative text = zero.le x := by
  rw [isNonnegative, h, Option.any_some]

theorem isNonpositive_of_numberOf? : isNonpositive text = x.le zero := by
  rw [isNonpositive, h, Option.any_some]

theorem isNonzero_of_numberOf? : isNonzero text = !x.isZero := by
  rw [isNonzero, h, Option.any_some]

/-- A number has one of the signs. -/
theorem isNonnegative_or_isNonpositive : isNonnegative text = true ∨ isNonpositive text = true := by
  have hnumber := isNaN_of_numberOf? h
  rw [isNonnegative_of_numberOf? h, isNonpositive_of_numberOf? h, zero_le_iff hnumber,
    le_zero_iff hnumber]
  cases x.negative <;> simp

/-- Only zero has both signs. -/
theorem isNonnegative_and_isNonpositive_iff :
    isNonnegative text = true ∧ isNonpositive text = true ↔ isNonzero text = false := by
  have hnumber := isNaN_of_numberOf? h
  rw [isNonnegative_of_numberOf? h, isNonpositive_of_numberOf? h, isNonzero_of_numberOf? h,
    Bool.not_eq_false', zero_le_iff hnumber, le_zero_iff hnumber, isZero_iff]
  cases x.negative <;> simp

/-- A sign that is asked for and not refused is there. -/
theorem Criterion.acceptsNumber_of_numberOf? (rules : Rules) :
    acceptsNumber text rules = ((!rules.positive || isNonnegative text) &&
      (!rules.negative || isNonpositive text) && (!rules.nonzero || isNonzero text) &&
      rules.admits x) := by
  have hnumber := isNaN_of_numberOf? h
  rw [isNonnegative_of_numberOf? h, isNonpositive_of_numberOf? h, isNonzero_of_numberOf? h]
  simp only [acceptsNumber, h, lt_eq_not_le hnumber (y := zero) rfl,
    lt_eq_not_le (x := zero) rfl hnumber, Bool.not_and, Bool.not_not]

end Signs

theorem Rules.admits_eq_true_iff {rules : Rules} {x : Binary64} :
    rules.admits x = true ↔ (∀ max, rules.max = some max → x.le max = true) ∧
      ∀ min, rules.min = some min → min.le x = true := by
  rw [admits, Bool.and_eq_true, Option.all_eq_true, Option.all_eq_true]

theorem exists_numberOf? {text : String} (h : isNumeric text = true) :
    ∃ x, numberOf? text = some x := Option.isSome_iff_exists.1 h

theorem Criterion.acceptsNumber_iff {text : String} {rules : Rules} :
    acceptsNumber text rules = true ↔ isNumeric text = true ∧
      (rules.positive = true → isNonnegative text = true) ∧
      (rules.negative = true → isNonpositive text = true) ∧
      (rules.nonzero = true → isNonzero text = true) ∧
      ∃ x, numberOf? text = some x ∧ rules.admits x = true := by
  cases h : numberOf? text with
  | none => simp [acceptsNumber, isNumeric, h]
  | some x =>
    rw [acceptsNumber_of_numberOf? h, isNumeric_of_numberOf? h]
    simp only [Bool.and_eq_true, Bool.or_eq_true, Bool.not_eq_true', ← Bool.not_eq_true,
      ← imp_iff_not_or, Option.some.injEq, exists_eq_left', true_and, and_assoc]

/-- A value is good as a number if it is a numeric text with the signs that the rules ask for,
within the bounds that they have.  Every numeric text has one of the signs, and both exactly if it
is not different from zero. -/
theorem Criterion.accepts_number_iff (value : Value) (rules : Rules) :
    (number.accepts value rules = true ↔
      ∃ text, value = .scalar text ∧ isNumeric text = true ∧
        (rules.positive = true → isNonnegative text = true) ∧
        (rules.negative = true → isNonpositive text = true) ∧
        (rules.nonzero = true → isNonzero text = true) ∧
        ∃ x, numberOf? text = some x ∧ (∀ max, rules.max = some max → x.le max = true) ∧
          ∀ min, rules.min = some min → min.le x = true) ∧
    ∀ text, isNumeric text = true →
      (isNonnegative text = true ∨ isNonpositive text = true) ∧
      (isNonnegative text = true ∧ isNonpositive text = true ↔ isNonzero text = false) := by
  constructor
  · cases value with
    | sequence items => simp [accepts]
    | scalar text =>
      rw [accepts, acceptsNumber_iff]
      simp only [Rules.admits_eq_true_iff, Value.scalar.injEq, exists_eq_left']
  · intro text hnumeric
    obtain ⟨x, h⟩ := exists_numberOf? hnumeric
    exact ⟨isNonnegative_or_isNonpositive h, isNonnegative_and_isNonpositive_iff h⟩

/-- An overflow below zero, at a bound that is one as well. -/
theorem Criterion.accepts_number_iff_infinity :
    let rules := Rules.ofText "type:number|negative:true|nonzero:true|min:-1e999"
    isNumeric " -1e998 " = true ∧ number.accepts (.scalar " -1e998 ") rules = true ∧
      ¬(isNonnegative " -1e998 " = true ∧ isNonpositive " -1e998 " = true) := by
  intro rules
  have hrules : rules =
      { fieldType := .number
        negative := true
        nonzero := true
        min := some ⟨true, infinityCode⟩ } := by decide +kernel
  have hread : numberOf? " -1e998 " = some ⟨true, infinityCode⟩ := by decide +kernel
  have hnumeric : isNumeric " -1e998 " = true := isNumeric_of_numberOf? hread
  have hnonzero : isNonzero " -1e998 " = true := by rw [isNonzero_of_numberOf? hread]; rfl
  obtain ⟨haccepts, hsigns⟩ := accepts_number_iff (.scalar " -1e998 ") rules
  refine ⟨hnumeric, haccepts.2 ⟨_, rfl, hnumeric, ?_⟩, ?_⟩
  · rw [hrules]
    refine ⟨by simp, ?_, fun _ => hnonzero, _, hread, by simp, ?_⟩
    · intro _
      rw [isNonpositive_of_numberOf? hread]
      rfl
    · intro min hmin
      cases hmin
      rfl
  · rw [(hsigns _ hnumeric).2, hnonzero]
    exact Bool.noConfusion

end FormRules
