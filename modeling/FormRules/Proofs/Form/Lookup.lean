import FormRules.Proofs.Form.Reachable

/-!
# Looking up, changing and adding fields

Where the index tells the place of each key, it leads from a key to the one field that has it.  A
lookup is then a search among the fields, a change is a change of that field alone, and fields are
added in order as long as their keys are new.
-/

namespace FormRules

namespace Form

variable {form : Form} {key : String}

namespace Indexed

/-! ### The index -/

theorem lt_length (h : form.Indexed) {i : Nat} (hi : form.index.get? key = some i) :
    i < form.fields.length := by
  have hkey := (h key i).1 hi
  have hlt : i < form.keys.length := (List.getElem?_eq_some_iff.1 hkey).1
  rwa [keys, List.length_map] at hlt

theorem mem_keys (h : form.Indexed) : key ∈ form.keys ↔ ∃ i, form.index.get? key = some i := by
  simp only [List.mem_iff_getElem?, h key]

theorem get?_eq_none (h : form.Indexed) : form.index.get? key = none ↔ key ∉ form.keys := by
  rw [h.mem_keys, ← Option.isSome_iff_exists, Option.not_isSome_iff_eq_none]

theorem index_of_getElem? (h : form.Indexed) {i : Nat} {field : Field}
    (hi : form.fields[i]? = some field) : form.index.get? field.key = some i := by
  rw [h, keys, List.getElem?_map, hi]
  rfl

/-- The entries of the index are the keys with their places. -/
theorem entries_perm (h : form.Indexed) : form.index.entries.Perm form.keys.zipIdx := by
  have hnodup : form.keys.zipIdx.Nodup := by
    apply List.Nodup.of_map Prod.fst
    rw [List.zipIdx_map_fst]
    exact h.nodup_keys
  rw [List.perm_ext_iff_of_nodup form.index.nodup_entries hnodup]
  rintro ⟨key, i⟩
  rw [NameMap.mem_entries, List.mem_zipIdx_iff_getElem?]
  exact h key i

/-- The index is determined by the fields. -/
theorem ext {other : Form} (h : form.Indexed) (hother : other.Indexed)
    (hfields : form.fields = other.fields) : form = other := by
  have hkeys : form.keys = other.keys := congrArg (List.map Field.key) hfields
  have hindex : form.index = other.index := by
    apply NameMap.ext_get?
    intro key
    apply Option.ext
    intro i
    rw [h, hother, hkeys]
  cases form
  cases other
  simp only at hfields hindex
  rw [hfields, hindex]

/-! ### Lookups -/

theorem get?_eq_some_iff (h : form.Indexed) {field : Field} :
    form.get? key = some field ↔ field ∈ form.fields ∧ field.key = key := by
  rw [get?, Option.bind_eq_some_iff]
  constructor
  · rintro ⟨i, hi, hfield⟩
    refine ⟨List.mem_of_getElem? hfield, ?_⟩
    have hkey := (h key i).1 hi
    rw [keys, List.getElem?_map, hfield] at hkey
    exact Option.some.inj hkey
  · rintro ⟨hmem, rfl⟩
    obtain ⟨i, hfield⟩ := List.mem_iff_getElem?.1 hmem
    exact ⟨i, h.index_of_getElem? hfield, hfield⟩

theorem isSome_get? (h : form.Indexed) : (form.get? key).isSome ↔ key ∈ form.keys := by
  simp only [Option.isSome_iff_exists, h.get?_eq_some_iff, keys, List.mem_map]

/-! ### Changes -/

theorem modify_eq_map (h : form.Indexed) {i : Nat} (hi : form.index.get? key = some i)
    (e : FieldEdit) :
    (form.fields.modify i fun field => field.edit e) =
      form.fields.map fun field => if field.key = key then field.edit e else field := by
  apply List.ext_getElem?
  intro j
  rw [List.getElem?_modify, List.getElem?_map]
  cases hfield : form.fields[j]? with
  | none => rfl
  | some field =>
    have hj : form.index.get? field.key = some j := h.index_of_getElem? hfield
    have hplace : i = j ↔ field.key = key := by
      constructor
      · rintro rfl
        have hkey := (h key i).1 hi
        rw [keys, List.getElem?_map, hfield] at hkey
        exact Option.some.inj hkey
      · rintro rfl
        exact Option.some.inj (hi.symm.trans hj)
    simp only [hplace, Option.map_some]
    split <;> rfl

theorem edit?_eq (h : form.Indexed) (key : String) (e : FieldEdit) :
    form.edit? key e =
      if key ∈ form.keys then
        some { form with
          fields := form.fields.map fun field => if field.key = key then field.edit e else field }
      else none := by
  split
  · rename_i hmem
    obtain ⟨i, hi⟩ := h.mem_keys.1 hmem
    rw [Form.edit?, hi, Option.map_some, h.modify_eq_map hi]
  · rename_i hmem
    rw [Form.edit?, h.get?_eq_none.2 hmem, Option.map_none]

end Indexed

/-! ### Fields with new keys -/

theorem Indexed.add_of_not_mem (h : form.Indexed) {field : Field} (hkey : field.key ∉ form.keys) :
    form.add field =
      (⟨form.fields ++ [field], form.index.insert field.key form.fields.length⟩, true) := by
  rw [Form.add, h.get?_eq_none.2 hkey]

theorem Indexed.add_of_mem (h : form.Indexed) {field : Field} (hkey : field.key ∈ form.keys) :
    form.add field = (form, false) := by
  obtain ⟨i, hi⟩ := h.mem_keys.1 hkey
  rw [Form.add, hi]

theorem Indexed.keys_add_of_not_mem (h : form.Indexed) {field : Field}
    (hkey : field.key ∉ form.keys) : (form.add field).1.keys = form.keys ++ [field.key] := by
  rw [h.add_of_not_mem hkey]
  exact List.map_append

theorem append_cons (form : Form) (field : Field) (fields : List Field) :
    form.append (field :: fields) = (form.add field).1.append fields := by
  rw [append_eq_foldl, append_eq_foldl, List.foldl_cons]

/-- Fields whose keys are new are all added. -/
theorem Indexed.fields_append (h : form.Indexed) {fields : List Field}
    (hkeys : (form.keys ++ fields.map Field.key).Nodup) :
    (form.append fields).fields = form.fields ++ fields := by
  induction fields generalizing form with
  | nil => exact (List.append_nil _).symm
  | cons field fields ih =>
    have hnew : field.key ∉ form.keys := by
      intro hmem
      exact List.disjoint_of_nodup_append hkeys hmem List.mem_cons_self
    have hrest : ((form.add field).1.keys ++ fields.map Field.key).Nodup := by
      rw [h.keys_add_of_not_mem hnew, List.append_assoc]
      exact hkeys
    rw [append_cons, ih (h.add field) hrest, h.add_of_not_mem hnew, List.append_assoc]
    rfl

theorem fields_ofFields {fields : List Field} (hkeys : (fields.map Field.key).Nodup) :
    (ofFields fields).fields = fields :=
  empty_indexed.fields_append hkeys

/-! ### Equal forms -/

theorem Reachable.eq_iff {other : Form} (hform : form.Reachable) (hother : other.Reachable) :
    form = other ↔ form.fields = other.fields := by
  constructor
  · intro heq
    rw [heq]
  · exact hform.indexed.ext hother.indexed

/-- A form is made anew from its own fields. -/
theorem Reachable.ofFields_fields (hform : form.Reachable) : ofFields form.fields = form := by
  have hfields : (ofFields form.fields).fields = form.fields :=
    Form.fields_ofFields hform.indexed.nodup_keys
  exact ((reachable_ofFields form.fields).eq_iff hform).2 hfields

end Form

end FormRules
