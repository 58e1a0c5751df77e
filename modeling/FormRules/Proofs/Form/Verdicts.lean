import FormRules.Proofs.Form.Lookup

/-!
# Fields are judged one by one

Whether a key is reported depends on its own field alone: the field could as well stand in a form
of its own, and changes of other fields do not matter.
-/

namespace FormRules

namespace Form

variable {form next : Form} {key other : String} {e : FieldEdit}

/-! ### The keys that are reported -/

theorem failingKeys_sublist (form : Form) : form.failingKeys.Sublist form.keys :=
  List.filter_sublist.map Field.key

theorem mem_failingKeys :
    key ∈ form.failingKeys ↔ ∃ field ∈ form.fields, field.key = key ∧ field.passes = false := by
  simp only [failingKeys, List.mem_map, List.mem_filter, Bool.not_eq_true']
  constructor
  · rintro ⟨field, ⟨hfield, hfails⟩, hkey⟩
    exact ⟨field, hfield, hkey, hfails⟩
  · rintro ⟨field, hfield, hkey, hfails⟩
    exact ⟨field, ⟨hfield, hfails⟩, hkey⟩

theorem failingKeys_ofFields_singleton (field : Field) :
    (ofFields [field]).failingKeys = [field.key] ↔ field.passes = false := by
  have hfields : (ofFields [field]).fields = [field] :=
    fields_ofFields (List.nodup_singleton field.key)
  rw [failingKeys, hfields]
  cases hpasses : field.passes with
  | false => simp [hpasses]
  | true => simp [hpasses]

/-- A key is reported if its field is reported in a form of its own. -/
theorem Indexed.mem_failingKeys_iff_alone (h : form.Indexed) :
    key ∈ form.failingKeys ↔
      ∃ field, form.get? key = some field ∧ (ofFields [field]).failingKeys = [key] := by
  rw [mem_failingKeys]
  constructor
  · rintro ⟨field, hfield, rfl, hfails⟩
    exact ⟨field, h.get?_eq_some_iff.2 ⟨hfield, rfl⟩,
      (failingKeys_ofFields_singleton field).2 hfails⟩
  · rintro ⟨field, hget, halone⟩
    obtain ⟨hfield, rfl⟩ := h.get?_eq_some_iff.1 hget
    exact ⟨field, hfield, rfl, (failingKeys_ofFields_singleton field).1 halone⟩

/-! ### Changes -/

theorem Indexed.fields_edit? (h : form.Indexed) (hedit : form.edit? key e = some next) :
    next.fields =
      form.fields.map fun field => if field.key = key then field.edit e else field := by
  rw [h.edit?_eq] at hedit
  split at hedit
  · cases hedit
    rfl
  · cases hedit

theorem Indexed.mem_failingKeys_edit? (h : form.Indexed) (hedit : form.edit? key e = some next)
    (hother : other ≠ key) : other ∈ next.failingKeys ↔ other ∈ form.failingKeys := by
  rw [mem_failingKeys, mem_failingKeys, h.fields_edit? hedit]
  simp only [List.mem_map, exists_exists_and_eq_and]
  constructor
  · rintro ⟨field, hfield, hkey, hfails⟩
    split at hkey
    · rename_i hchanged
      rw [Field.key_edit, hchanged] at hkey
      exact absurd hkey.symm hother
    · rename_i hkept
      rw [if_neg hkept] at hfails
      exact ⟨field, hfield, hkey, hfails⟩
  · rintro ⟨field, hfield, rfl, hfails⟩
    refine ⟨field, hfield, ?_⟩
    rw [if_neg hother]
    exact ⟨rfl, hfails⟩

/-- The name of a field is for display. -/
theorem Indexed.failingKeys_edit?_name (h : form.Indexed) {name : String}
    (hedit : form.edit? key (.name name) = some next) : next.failingKeys = form.failingKeys := by
  have hkey : ∀ field : Field,
      (if field.key = key then field.edit (.name name) else field).key = field.key := by
    intro field
    split <;> rfl
  have hpasses : ∀ field : Field,
      (if field.key = key then field.edit (.name name) else field).passes = field.passes := by
    intro field
    split
    · exact field.passes_edit_name name
    · rfl
  simp only [failingKeys, h.fields_edit? hedit, List.filter_map, List.map_map, Function.comp_def,
    hkey, hpasses]

/-- The keys that are reported are among the keys of the form, in their order and once each.  A key
is reported if its field is reported alone, and the form passes if none is.  A change of a field
keeps the order of keys and the verdicts on all other fields, and a new name keeps all verdicts. -/
theorem Reachable.failingKeys_fieldwise (hform : form.Reachable) :
    form.failingKeys.Sublist form.keys ∧ form.failingKeys.Nodup ∧
    (∀ key, key ∈ form.failingKeys ↔
      ∃ field, form.get? key = some field ∧ (ofFields [field]).failingKeys = [key]) ∧
    (form.passes = true ↔ form.failingKeys = []) ∧
    (∀ key e, key ∉ form.keys → form.edit? key e = none) ∧
    (∀ key e, key ∈ form.keys → ∃ next, form.edit? key e = some next ∧ next.keys = form.keys ∧
      (∀ other, other ≠ key → (other ∈ next.failingKeys ↔ other ∈ form.failingKeys)) ∧
      (∀ name, e = .name name → next.failingKeys = form.failingKeys)) := by
  have h : form.Indexed := hform.indexed
  refine ⟨form.failingKeys_sublist, h.nodup_keys.sublist form.failingKeys_sublist,
    fun _ => h.mem_failingKeys_iff_alone, form.passes_iff, ?_, ?_⟩
  · intro key e hkey
    rw [h.edit?_eq, if_neg hkey]
  · intro key e hkey
    obtain ⟨next, hedit⟩ : ∃ next, form.edit? key e = some next := by
      rw [h.edit?_eq, if_pos hkey]
      exact ⟨_, rfl⟩
    refine ⟨next, hedit, (keys_edit? hedit).1, fun _ hother => h.mem_failingKeys_edit? hedit hother,
      ?_⟩
    rintro name rfl
    exact h.failingKeys_edit?_name hedit

/-- A change of the field between two that fail keeps both of them reported. -/
theorem Reachable.failingKeys_fieldwise_between :
    let form := ofFields [⟨"c", .scalar "x", .oneOf [], ""⟩, ⟨"a", .scalar "x", .oneOf [], ""⟩,
      ⟨"b", .scalar "x", .oneOf [], ""⟩]
    form.Reachable ∧ "a" ∈ form.keys ∧
      ∃ next, form.edit? "a" (.value (.scalar "y")) = some next ∧ next.keys = form.keys ∧
        ∀ other, other ≠ "a" → (other ∈ next.failingKeys ↔ other ∈ form.failingKeys) := by
  intro form
  have hform : form.Reachable := reachable_ofFields _
  have hkey : "a" ∈ form.keys := by decide
  have hchange := hform.failingKeys_fieldwise.2.2.2.2.2 "a" (.value (.scalar "y")) hkey
  obtain ⟨next, hedit, hkeys, hothers, -⟩ := hchange
  exact ⟨hform, hkey, next, hedit, hkeys, hothers⟩

end Form

end FormRules
