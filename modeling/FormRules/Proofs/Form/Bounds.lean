import FormRules.Proofs.Form.Reachable
import FormRules.Proofs.Rules.Bounds

/-!
# Bounds are inclusive

A value has a measure under three of the types: the number that its text is, its number of
characters, or its number of items.  Under a lower and an upper bound a field is reported exactly
if the measure of its value lies below the one or above the other.
-/

namespace FormRules

open FormRules.Text FormRules.RuleText

/-- The whole number that a value is measured by under a type. -/
inductive Value.HasMeasure : Value → FieldType → ℤ → Prop
  | number (text : String) (n : ℤ) (h : Numeral.Denotes (trim text.toList) n) :
    HasMeasure (.scalar text) .number n
  | string (text : String) (h : trim text.toList ≠ []) :
    HasMeasure (.scalar text) .string (charCount text)
  | array (items : List Value) : HasMeasure (.sequence items) .array items.length

/-! ### Bounds and measures without error -/

theorem Numeral.Denotes.exists_isExactly {text : String} {n : ℤ}
    (h : Denotes (trim text.toList) n) (hn : n.natAbs ≤ 2 ^ 53) :
    ∃ x, numberOf? text = some x ∧ x.IsExactly n := by
  obtain ⟨d, hvalue, hread⟩ := h.exists_numberOf?
  exact ⟨d.toBinary64, hread, Decimal.isExactly_toBinary64 hvalue hn⟩

theorem Numeral.Denotes.trim_eq {s : List Char} {q : ℚ} (h : Denotes s q) : trim s = s := by
  have hvalue := h.isPlainValue
  have htrim := trim_between .nil .nil hvalue.starts hvalue.ends hvalue.ne_nil
  rwa [List.nil_append, List.append_nil] at htrim

theorem Rules.admits_iff {rules : Rules} {lo hi x : Binary64} {a b n : ℚ}
    (hmin : rules.min = some lo) (hmax : rules.max = some hi) (hlo : lo.IsExactly a)
    (hhi : hi.IsExactly b) (hx : x.IsExactly n) :
    rules.admits x = true ↔ a ≤ n ∧ n ≤ b := by
  rw [admits, hmin, hmax, Option.all_some, Option.all_some, Bool.and_eq_true, hx.le_iff hhi,
    hlo.le_iff hx]
  exact and_comm

/-- A value with a measure is good if the bounds admit the measure. -/
theorem Rules.accepts_of_hasMeasure {fieldType : FieldType} {value : Value} {n : ℤ}
    (h : value.HasMeasure fieldType n) (hn : n.natAbs ≤ 2 ^ 53) (min max : Option Binary64) :
    let rules : Rules := { required := true, fieldType := fieldType, min := min, max := max }
    ∃ x : Binary64, x.IsExactly n ∧ rules.accepts value = rules.admits x := by
  intro rules
  cases h with
  | number text _ hdenotes =>
    obtain ⟨x, hread, hx⟩ := hdenotes.exists_isExactly hn
    refine ⟨x, hx, ?_⟩
    simp [Rules.accepts, rules, FieldType.criterion?, Criterion.accepts, Criterion.acceptsNumber,
      hread]
  | string text hsolid =>
    have htext : hasText text = true := by simpa [hasText] using hsolid
    refine ⟨.ofNat (charCount text), Binary64.isExactly_ofNat (by omega), ?_⟩
    simp [Rules.accepts, rules, FieldType.criterion?, Criterion.accepts, Criterion.acceptsString,
      htext]
  | array items =>
    exact ⟨.ofNat items.length, Binary64.isExactly_ofNat (by omega), rfl⟩

theorem Constraint.permits_of_required {text : String} (h : (Rules.ofText text).required = true)
    (value : Value) : (Constraint.rules text).permits value = (Rules.ofText text).accepts value := by
  simp [permits, h]

theorem Value.HasMeasure.isKnown {value : Value} {fieldType : FieldType} {n : ℤ}
    (h : value.HasMeasure fieldType n) : fieldType.isKnown = true := by
  cases h <;> rfl

/-! ### Fields with bounds -/

/-- A required field with bounds is reported if the measure of its value is out of bounds, and not
otherwise.  For texts and natural numbers that is the check of their length. -/
theorem Form.mem_failingKeys_of_bounds {form : Form} (hform : form.Reachable) {field : Field}
    (hfield : field ∈ form.fields) {fieldType : FieldType} {lo hi : String} {a b n : ℤ}
    {pairs : List (String × String)} (hperm : pairs.Perm (boundPairs fieldType lo hi))
    (hrules : field.constraint = .rules (ofPairs pairs)) (hlo : Numeral.Denotes lo.toList a)
    (hhi : Numeral.Denotes hi.toList b) (hmeasure : field.value.HasMeasure fieldType n)
    (ha : a.natAbs ≤ 2 ^ 53) (hb : b.natAbs ≤ 2 ^ 53) (hn : n.natAbs ≤ 2 ^ 53) :
    (field.key ∈ form.failingKeys ↔ n < a ∨ b < n) ∧
      ∀ (text : String) (low high : ℕ), fieldType = .string → field.value = .scalar text →
        a = low → b = high →
          (field.key ∉ form.failingKeys ↔ hasLengthWithin text low high = true) := by
  obtain ⟨min, hmin, hminExact⟩ := Numeral.Denotes.exists_isExactly (hlo.trim_eq.symm ▸ hlo) ha
  obtain ⟨max, hmax, hmaxExact⟩ := Numeral.Denotes.exists_isExactly (hhi.trim_eq.symm ▸ hhi) hb
  have htext := Rules.ofText_of_perm hperm hmeasure.isKnown hlo hhi
  rw [hmin, hmax] at htext
  obtain ⟨x, hx, haccepts⟩ := Rules.accepts_of_hasMeasure hmeasure hn (some min) (some max)
  have hpasses : field.passes = true ↔ a ≤ n ∧ n ≤ b := by
    have hrequired : (Rules.ofText (ofPairs pairs)).required = true := by rw [htext]
    rw [Field.passes, hrules, Constraint.permits_of_required hrequired, htext, haccepts,
      Rules.admits_iff rfl rfl hminExact hmaxExact hx]
    norm_cast
  have hreported : field.key ∈ form.failingKeys ↔ n < a ∨ b < n := by
    rw [hform.mem_failingKeys hfield, ← Bool.not_eq_true, hpasses]
    omega
  refine ⟨hreported, ?_⟩
  intro text low high htype hvalue hlow hhigh
  rw [hreported, hasLengthWithin]
  subst htype
  rw [hvalue] at hmeasure
  cases hmeasure with
  | string _ hsolid =>
    simp only [Bool.and_eq_true, decide_eq_true_eq]
    omega

/-- A number above the upper bound is reported. -/
theorem Form.mem_failingKeys_of_bounds_above :
    let pairs := [("max", "10"), ("type", "number"), ("min", "-5"), ("required", "true")]
    let field : Field := ⟨"size", .scalar " 11 ", .rules (ofPairs pairs), ""⟩
    pairs.Perm (boundPairs .number "-5" "10") ∧ Numeral.Denotes "-5".toList (-5 : ℤ) ∧
      Numeral.Denotes "10".toList (10 : ℤ) ∧ field.value.HasMeasure .number 11 ∧
      field.key ∈ (Form.ofFields [field]).failingKeys := by
  intro pairs field
  have hperm : pairs.Perm (boundPairs .number "-5" "10") := by decide
  have hminus : (toString (-5 : ℤ)).toList = "-5".toList := by decide
  have hlo : Numeral.Denotes "-5".toList (-5 : ℤ) := hminus ▸ Numeral.denotes_toString (-5)
  have hhi : Numeral.Denotes "10".toList (10 : ℤ) := Numeral.denotes_toString 10
  have hmeasure : field.value.HasMeasure .number 11 :=
    .number " 11 " 11 (Numeral.denotes_toString 11)
  have hbounds := Form.mem_failingKeys_of_bounds (Form.reachable_ofFields [field])
    List.mem_cons_self hperm rfl hlo hhi hmeasure (by decide) (by decide) (by decide)
  exact ⟨hperm, hlo, hhi, hmeasure, hbounds.1.2 (by decide)⟩

end FormRules
