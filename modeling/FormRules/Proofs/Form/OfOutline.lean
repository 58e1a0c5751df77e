import FormRules.Form.OfOutline
import FormRules.Proofs.Form.Lookup
import Mathlib.Data.List.Induction

/-!
# The two ways of building a form

Building a form from an outline looks at all entries before it drops any, while building one with
distinct keys stops at the first entry that is at fault or repeats a key.  `buildDistinct_cases`
tells the three ways in which this can end, and what the other way of building makes of each.
-/

namespace FormRules

variable {entries before after : List FieldOutline} {entry : FieldOutline} {fields : List Field}
  {field : Field} {fault : FieldFault} {form : Form}

/-! ### Entries that become fields -/

theorem FieldOutline.key_of_build (h : entry.build = .ok field) : field.key = entry.key := by
  unfold FieldOutline.build at h
  cases hvalue : (Value.ofJson entry.value).mapError (FieldFault.unusableValue entry.key) with
  | error e =>
    rw [hvalue] at h
    cases h
  | ok value =>
    rw [hvalue] at h
    cases hconstraint :
        (Constraint.ofJson entry.rules).mapError (FieldFault.unusableRules entry.key) with
    | error e =>
      simp only [hconstraint] at h
      cases h
    | ok constraint =>
      simp only [hconstraint] at h
      cases h
      rfl

namespace FormOutline

theorem toFields_cons_of_build (h : entry.build = .ok field) :
    toFields (entry :: entries) = (toFields entries).map (field :: ·) := by
  rw [toFields, h]
  cases toFields entries <;> rfl

theorem toFields_cons_of_fault (h : entry.build = .error fault) :
    toFields (entry :: entries) = .error fault := by
  rw [toFields, h]
  rfl

theorem toFields_cons_eq_ok (h : toFields (entry :: entries) = .ok fields) :
    ∃ field rest, entry.build = .ok field ∧ toFields entries = .ok rest ∧
      fields = field :: rest := by
  cases hbuild : entry.build with
  | error fault =>
    rw [toFields_cons_of_fault hbuild] at h
    cases h
  | ok field =>
    rw [toFields_cons_of_build hbuild] at h
    cases hrest : toFields entries with
    | error fault =>
      rw [hrest] at h
      cases h
    | ok rest =>
      rw [hrest] at h
      cases h
      exact ⟨field, rest, rfl, rfl, rfl⟩

theorem toFields_append (h : toFields before = .ok fields) :
    toFields (before ++ after) = (toFields after).map (fields ++ ·) := by
  induction before generalizing fields with
  | nil =>
    cases h
    cases hafter : toFields after <;> exact hafter
  | cons entry before ih =>
    obtain ⟨field, rest, hbuild, hrest, rfl⟩ := toFields_cons_eq_ok h
    rw [List.cons_append, toFields_cons_of_build hbuild, ih hrest]
    cases toFields after <;> rfl

theorem map_key_of_toFields (h : toFields entries = .ok fields) :
    fields.map Field.key = entries.map FieldOutline.key := by
  induction entries generalizing fields with
  | nil =>
    cases h
    rfl
  | cons entry entries ih =>
    obtain ⟨field, rest, hbuild, hrest, rfl⟩ := toFields_cons_eq_ok h
    rw [List.map_cons, List.map_cons, FieldOutline.key_of_build hbuild, ih hrest]

theorem exists_build_of_toFields (h : toFields entries = .ok fields) :
    ∀ entry ∈ entries, ∃ field, entry.build = .ok field := by
  induction entries generalizing fields with
  | nil =>
    intro entry hentry
    cases hentry
  | cons first entries ih =>
    obtain ⟨field, rest, hbuild, hrest, -⟩ := toFields_cons_eq_ok h
    intro entry hentry
    rcases List.mem_cons.1 hentry with rfl | hentry
    · exact ⟨field, hbuild⟩
    · exact ih hrest entry hentry

/-! ### Entries with new keys -/

/-- Entries that become fields with new keys are passed one after the other. -/
theorem addDistinct_append (h : form.Indexed) (hfields : toFields before = .ok fields)
    (hkeys : (form.keys ++ before.map FieldOutline.key).Nodup) :
    addDistinct form (before ++ after) = addDistinct (form.append fields) after := by
  -- the keys of the form and of what is left stay distinct, and the form stays indexed
  induction before generalizing form fields with
  | nil =>
    cases hfields
    rfl
  | cons entry before ih =>
    obtain ⟨field, rest, hbuild, hrest, rfl⟩ := toFields_cons_eq_ok hfields
    have hkey : field.key = entry.key := FieldOutline.key_of_build hbuild
    have hnew : field.key ∉ form.keys := by
      intro hmem
      rw [hkey] at hmem
      exact List.disjoint_of_nodup_append hkeys hmem List.mem_cons_self
    have hnext : ((form.add field).1.keys ++ before.map FieldOutline.key).Nodup := by
      rw [h.keys_add_of_not_mem hnew, hkey, List.append_assoc]
      exact hkeys
    have hstep : addDistinct form (entry :: (before ++ after)) =
        addDistinct (form.add field).1 (before ++ after) := by
      simp only [addDistinct, hbuild, h.add_of_not_mem hnew]
    rw [List.cons_append, hstep, ih (h.add field) hrest hnext, Form.append_cons]

/-- Where the entries before have become fields with distinct keys, the next one is looked at. -/
theorem buildDistinct_append {outline : FormOutline} (houtline : outline.fields = before ++ after)
    (hfields : toFields before = .ok fields) (hkeys : (before.map FieldOutline.key).Nodup) :
    outline.buildDistinct = addDistinct (.ofFields fields) after ∧
      (Form.ofFields fields).keys = before.map FieldOutline.key := by
  rw [buildDistinct, houtline]
  refine ⟨addDistinct_append Form.empty_indexed hfields hkeys, ?_⟩
  have hnodup : (fields.map Field.key).Nodup := by rwa [map_key_of_toFields hfields]
  rw [Form.keys, Form.fields_ofFields hnodup, map_key_of_toFields hfields]

/-! ### The first entry that stops -/

/-- Either all entries become fields with distinct keys, or there is a first one that is at fault or
repeats a key. -/
theorem entries_cases (entries : List FieldOutline) :
    (∃ fields, toFields entries = .ok fields ∧ (entries.map FieldOutline.key).Nodup) ∨
    ∃ before entry after fields, entries = before ++ entry :: after ∧
      toFields before = .ok fields ∧ (before.map FieldOutline.key).Nodup ∧
      ((∃ fault, entry.build = .error fault) ∨
        ∃ field, entry.build = .ok field ∧ entry.key ∈ before.map FieldOutline.key) := by
  -- from the end: where the entries before stop nowhere, the last one decides
  induction entries using List.reverseRecOn with
  | nil => exact Or.inl ⟨[], rfl, List.nodup_nil⟩
  | append_singleton entries entry ih =>
    rcases ih with ⟨fields, hfields, hkeys⟩ | ⟨before, first, after, fields, rfl, hstop⟩
    · cases hbuild : entry.build with
      | error fault =>
        exact Or.inr ⟨entries, entry, [], fields, rfl, hfields, hkeys, Or.inl ⟨fault, hbuild⟩⟩
      | ok field =>
        by_cases hmem : entry.key ∈ entries.map FieldOutline.key
        · exact Or.inr ⟨entries, entry, [], fields, rfl, hfields, hkeys,
            Or.inr ⟨field, hbuild, hmem⟩⟩
        · refine Or.inl ⟨fields ++ [field], ?_, ?_⟩
          · rw [toFields_append hfields, toFields_cons_of_build hbuild]
            rfl
          · rw [List.map_append]
            exact hkeys.append (List.nodup_singleton _)
              (List.disjoint_singleton.2 hmem)
    · refine Or.inr ⟨before, first, after ++ [entry], fields, ?_, hstop⟩
      rw [List.append_assoc, List.cons_append]

/-- How building with distinct keys ends, and what becomes of the other way of building. -/
theorem buildDistinct_cases (outline : FormOutline) :
    (∃ form, outline.buildDistinct = .ok form ∧ outline.build = .ok form) ∨
    ∃ before entry after, outline.fields = before ++ entry :: after ∧
      (∀ other ∈ before, ∃ field, other.build = .ok field) ∧
      (before.map FieldOutline.key).Nodup ∧
      ((∃ fault, entry.build = .error fault ∧ outline.buildDistinct = .error (.field fault) ∧
          outline.build = .error (.field fault)) ∨
        ∃ field, entry.build = .ok field ∧ entry.key ∈ before.map FieldOutline.key ∧
          outline.buildDistinct = .error (.repeatedKey entry.key)) := by
  rcases entries_cases outline.fields with
    ⟨fields, hfields, hkeys⟩ | ⟨before, entry, after, fields, houtline, hfields, hkeys, hstop⟩
  · have hall : outline.fields = outline.fields ++ [] := (List.append_nil _).symm
    obtain ⟨hdistinct, -⟩ := buildDistinct_append hall hfields hkeys
    refine Or.inl ⟨.ofFields fields, hdistinct, ?_⟩
    rw [build, hfields]
  · obtain ⟨hdistinct, hknown⟩ := buildDistinct_append houtline hfields hkeys
    refine Or.inr ⟨before, entry, after, houtline, exists_build_of_toFields hfields, hkeys, ?_⟩
    rcases hstop with ⟨fault, hbuild⟩ | ⟨field, hbuild, hmem⟩
    · refine Or.inl ⟨fault, hbuild, ?_, ?_⟩
      · rw [hdistinct, addDistinct, hbuild]
      · rw [build, houtline, toFields_append hfields, toFields_cons_of_fault hbuild]
        rfl
    · refine Or.inr ⟨field, hbuild, hmem, ?_⟩
      have hindexed : (Form.ofFields fields).Indexed := (Form.reachable_ofFields fields).indexed
      have hkey : field.key = entry.key := FieldOutline.key_of_build hbuild
      have htaken : field.key ∈ (Form.ofFields fields).keys := by
        rw [hknown, hkey]
        exact hmem
      simp only [hdistinct, addDistinct, hbuild, hindexed.add_of_mem htaken, hkey]

/-- A form with distinct keys is also the form that drops repeated keys.  A repeated key is reported
where it first occurs again, behind entries that all become fields.  A fault is the one that the
other way of building reports too, and no key is repeated before it.  Where entries become fields
and their keys are distinct, nothing is reported. -/
theorem buildDistinct_outcomes (outline : FormOutline) :
    (∀ form, outline.buildDistinct = .ok form → outline.build = .ok form) ∧
    (∀ key, outline.buildDistinct = .error (.repeatedKey key) →
      ∃ before entry after, outline.fields = before ++ entry :: after ∧ entry.key = key ∧
        key ∈ before.map FieldOutline.key ∧ (before.map FieldOutline.key).Nodup ∧
        ∀ other ∈ before ++ [entry], ∃ field, other.build = .ok field) ∧
    (∀ fault, outline.buildDistinct = .error (.field fault) →
      outline.build = .error (.field fault) ∧
      ∃ before entry after, outline.fields = before ++ entry :: after ∧
        entry.build = .error fault ∧ (∀ other ∈ before, ∃ field, other.build = .ok field) ∧
        (before.map FieldOutline.key).Nodup) ∧
    (∀ form, outline.build = .ok form → (outline.fields.map FieldOutline.key).Nodup →
      outline.buildDistinct = .ok form) := by
  rcases buildDistinct_cases outline with
    ⟨form, hdistinct, hbuild⟩ | ⟨before, entry, after, houtline, hbefore, hkeys, hstop⟩
  · simp only [hdistinct, hbuild, reduceCtorEq, Except.ok.injEq, false_implies, implies_true,
      true_and, imp_self]
    exact fun other heq _ => heq
  · rcases hstop with ⟨fault, hfault, hdistinct, hbuild⟩ | ⟨field, hfield, hmem, hdistinct⟩
    · simp only [hdistinct, hbuild, reduceCtorEq, Except.error.injEq, FormFault.field.injEq,
        false_implies, implies_true, true_and, and_true]
      rintro _ rfl
      exact ⟨rfl, before, entry, after, houtline, hfault, hbefore, hkeys⟩
    · refine ⟨?_, ?_, ?_, ?_⟩
      · intro form hform
        rw [hdistinct] at hform
        cases hform
      · intro key hkey
        rw [hdistinct] at hkey
        cases hkey
        refine ⟨before, entry, after, houtline, rfl, hmem, hkeys, ?_⟩
        intro other hother
        rcases List.mem_append.1 hother with hother | hother
        · exact hbefore other hother
        · exact ⟨field, List.mem_singleton.1 hother ▸ hfield⟩
      · intro fault hfault
        rw [hdistinct] at hfault
        cases hfault
      · intro form _ hnodup
        rw [houtline, List.map_append, List.map_cons] at hnodup
        exact absurd List.mem_cons_self (List.disjoint_of_nodup_append hnodup hmem)

/-- A fault behind a repeated key is not reported, one before it is, and keys that differ are no
fault. -/
theorem buildDistinct_repeated_and_fault :
    let good : FieldOutline := ⟨"a", .string "1", .string "type:number", ""⟩
    let other : FieldOutline := { good with key := "b" }
    let bad : FieldOutline := ⟨"c", .string "1", .null, ""⟩
    let fields : List Field := [⟨"a", .scalar "1", .rules "type:number", ""⟩,
      ⟨"b", .scalar "1", .rules "type:number", ""⟩]
    (∃ before entry after, [good, good, bad] = before ++ entry :: after ∧ entry.key = "a" ∧
      "a" ∈ before.map FieldOutline.key ∧ (before.map FieldOutline.key).Nodup ∧
      ∀ other ∈ before ++ [entry], ∃ field, other.build = .ok field) ∧
    (⟨[good, bad, good]⟩ : FormOutline).build = .error (.field (.unusableRules "c" "null")) ∧
    (⟨[good, other]⟩ : FormOutline).buildDistinct = .ok (.ofFields fields) := by
  intro good other bad fields
  refine ⟨?_, ?_, ?_⟩
  · exact (buildDistinct_outcomes ⟨[good, good, bad]⟩).2.1 "a" rfl
  · exact ((buildDistinct_outcomes ⟨[good, bad, good]⟩).2.2.1 (.unusableRules "c" "null") rfl).1
  · exact (buildDistinct_outcomes ⟨[good, other]⟩).2.2.2 (.ofFields fields) rfl (by decide)

end FormOutline

end FormRules
