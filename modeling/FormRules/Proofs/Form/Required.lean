import FormRules.Proofs.Criterion.Blank
import FormRules.Proofs.Form.Reachable

/-!
# Required and optional fields

No criterion takes the empty text for a good value.  A required field whose value is not given is
therefore reported, with one exception: a sequence without items is good for an array whose bounds
admit no items at all.  An optional field is never reported while its value is not given.

The exception goes against the specification, section 11, which has every required field with an
empty value reported.
-/

namespace FormRules

open FormRules.Text

/-! ### Values that are not given -/

/-- What is not given is the empty text, or for an array a sequence without items. -/
theorem FieldType.isGiven_eq_false {fieldType : FieldType} {value : Value} :
    fieldType.isGiven value = false ↔
      value = .scalar "" ∨ fieldType = .array ∧ value = .sequence [] := by
  cases value with
  | scalar text => cases fieldType <;> simp [isGiven, Value.isEmpty]
  | sequence items => cases fieldType <;> simp [isGiven, Value.isEmpty]

/-- Of the values that are not given, only a sequence without items can be good, and it is if the
bounds admit none. -/
theorem Rules.accepts_of_not_isGiven {rules : Rules} {value : Value}
    (h : rules.fieldType.isGiven value = false) :
    rules.accepts value = true ↔
      rules.fieldType = .array ∧ value = .sequence [] ∧ rules.admits (.ofNat 0) = true := by
  rcases FieldType.isGiven_eq_false.1 h with rfl | ⟨htype, rfl⟩
  · have hblank : trim "".toList = [] := rfl
    -- an unknown type has no criterion, and every known one turns the empty text down
    refine iff_of_false (Bool.not_eq_true _ ▸ ?_) fun hexception => nomatch hexception.2.1
    rw [Rules.accepts]
    cases rules.fieldType.criterion? with
    | none => rfl
    | some criterion => exact criterion.accepts_of_blank hblank rules
  · rw [Rules.accepts, htype]
    exact ⟨fun hgood => ⟨rfl, rfl, hgood⟩, fun hexception => hexception.2.2⟩

theorem Constraint.permits_of_not_isGiven {text : String} {value : Value}
    (h : (Rules.ofText text).fieldType.isGiven value = false) :
    (Constraint.rules text).permits value = (!(Rules.ofText text).required ||
      (Rules.ofText text).accepts value) := by
  rw [Constraint.permits, h, Bool.not_false, Bool.and_true]

/-- A field whose value is not given is reported if it is required, unless its value is a sequence
without items and that many items are admitted. -/
theorem Form.mem_failingKeys_of_not_isGiven {form : Form} (hform : form.Reachable) {field : Field}
    (hfield : field ∈ form.fields) {text : String} (htext : field.constraint = .rules text)
    (hvalue : (Rules.ofText text).fieldType.isGiven field.value = false) :
    field.key ∈ form.failingKeys ↔
      (Rules.ofText text).required = true ∧
        ¬((Rules.ofText text).fieldType = .array ∧ field.value = .sequence [] ∧
          (Rules.ofText text).admits (.ofNat 0) = true) := by
  rw [hform.mem_failingKeys hfield, Field.passes, htext, Constraint.permits_of_not_isGiven hvalue,
    Bool.or_eq_false_iff, Bool.not_eq_false', ← Rules.accepts_of_not_isGiven hvalue,
    Bool.not_eq_true]

/-- A required text that is empty is reported. -/
theorem Form.mem_failingKeys_emptyText :
    let field : Field := ⟨"name", .scalar "", .rules "type:string|required:true", ""⟩
    field.key ∈ (Form.ofFields [field]).failingKeys := by
  intro field
  have hpairs : RuleText.pairs (trim "type:string|required:true".toList) =
      [("type".toList, "string".toList), ("required".toList, "true".toList)] := by decide +kernel
  have hrules : Rules.ofText "type:string|required:true" = { required := true } := by
    rw [Rules.ofText, RulePairs.ofText, hpairs]
    rfl
  have hvalue : (Rules.ofText "type:string|required:true").fieldType.isGiven field.value =
      false := by
    rw [hrules]
    rfl
  have hrequired : (Rules.ofText "type:string|required:true").required = true := by rw [hrules]
  exact (Form.mem_failingKeys_of_not_isGiven (Form.reachable_ofFields [field])
    List.mem_cons_self rfl hvalue).2
      ⟨hrequired, fun hexception => absurd hexception.2.1 (by decide)⟩

/-- A required array without items is not reported if it has no bounds. -/
theorem Form.failingKeys_emptyArray :
    let rules := Rules.ofText "type:array|required:true"
    let field : Field := ⟨"tags", .sequence [], .rules "type:array|required:true", ""⟩
    rules.required = true ∧ rules.fieldType.isGiven field.value = false ∧
      field ∈ (Form.ofFields [field]).fields ∧ (Form.ofFields [field]).failingKeys = [] := by
  have hpairs : RuleText.pairs (trim "type:array|required:true".toList) =
      [("type".toList, "array".toList), ("required".toList, "true".toList)] := by decide +kernel
  have hrules : Rules.ofText "type:array|required:true" =
      { required := true, fieldType := .array } := by
    rw [Rules.ofText, RulePairs.ofText, hpairs]
    rfl
  intro rules field
  have hpasses : field.passes = true := by
    change ((!rules.required && _) || rules.accepts _) = true
    rw [show rules = _ from hrules]
    rfl
  refine ⟨congrArg Rules.required hrules, ?_, List.mem_cons_self, ?_⟩
  · rw [show rules = _ from hrules]
    rfl
  · change ([field].filter fun field => !field.passes).map Field.key = []
    rw [List.filter_cons, hpasses]
    rfl

end FormRules
