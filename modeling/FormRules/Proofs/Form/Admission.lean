import FormRules.Proofs.Form.Lookup
import Mathlib.Data.List.Induction

/-!
# Adding many fields at once

Of a list of fields a form takes those that are the first with their key, be it in the form or in
the list.  A field that is turned away does not stop the fields behind it, and the verdict on the
whole list is that none was turned away.
-/

namespace FormRules

namespace Form

variable {form : Form} {key : String} {field : Field} {fields : List Field}

/-- The fields of a list whose key neither the form has nor an earlier field of the list. -/
def newcomers (form : Form) (fields : List Field) : List Field :=
  (fields.zipIdx.filter fun e =>
    e.1.key ∉ form.keys ∧ e.1.key ∉ (fields.take e.2).map Field.key).map Prod.fst

/-! ### The last field of a list -/

theorem newcomers_concat (form : Form) (fields : List Field) (field : Field) :
    form.newcomers (fields ++ [field]) = form.newcomers fields ++
      if field.key ∉ form.keys ∧ field.key ∉ fields.map Field.key then [field] else [] := by
  have hbefore : fields.zipIdx.filter (fun e => e.1.key ∉ form.keys ∧
        e.1.key ∉ ((fields ++ [field]).take e.2).map Field.key) =
      fields.zipIdx.filter fun e => e.1.key ∉ form.keys ∧
        e.1.key ∉ (fields.take e.2).map Field.key := by
    apply List.filter_congr
    intro e he
    have hplace : e.2 < 0 + fields.length := (List.mem_zipIdx he).2.1
    have htake : (fields ++ [field]).take e.2 = fields.take e.2 :=
      List.take_append_of_le_length (by omega)
    rw [htake]
  have hlast : (fields ++ [field]).take fields.length = fields := List.take_left
  rw [newcomers, List.zipIdx_append, List.filter_append, hbefore, List.map_append, newcomers,
    List.zipIdx_singleton, List.filter_singleton, Nat.zero_add]
  simp only [hlast]
  by_cases hnew : field.key ∉ form.keys ∧ field.key ∉ fields.map Field.key
  · rw [decide_eq_true hnew, if_pos hnew]
    rfl
  · rw [decide_eq_false hnew, if_neg hnew]
    rfl

theorem addAll_concat (form : Form) (fields : List Field) (field : Field) :
    form.addAll (fields ++ [field]) =
      (((form.append fields).add field).1,
        ((form.append fields).add field).2 && (form.addAll fields).2) := by
  rw [addAll, List.foldl_append]
  rfl

theorem append_append (form : Form) (fields others : List Field) :
    form.append (fields ++ others) = (form.append fields).append others := by
  simp only [append_eq_foldl, List.foldl_append]

theorem append_concat (form : Form) (fields : List Field) (field : Field) :
    form.append (fields ++ [field]) = ((form.append fields).add field).1 := by
  rw [append, addAll_concat]

/-! ### The keys of the outcome -/

theorem Indexed.mem_keys_add (h : form.Indexed) :
    key ∈ (form.add field).1.keys ↔ key ∈ form.keys ∨ key = field.key := by
  by_cases hkey : field.key ∈ form.keys
  · rw [h.add_of_mem hkey, or_iff_left_of_imp]
    intro heq
    rw [heq]
    exact hkey
  · rw [h.keys_add_of_not_mem hkey, List.mem_append, List.mem_singleton]

theorem Reachable.mem_keys_append (hform : form.Reachable) (fields : List Field) :
    key ∈ (form.append fields).keys ↔ key ∈ form.keys ∨ key ∈ fields.map Field.key := by
  induction fields using List.reverseRecOn with
  | nil => exact (or_iff_left List.not_mem_nil).symm
  | append_singleton fields field ih =>
    have h : (form.append fields).Indexed := (hform.append fields).indexed
    rw [append_concat, h.mem_keys_add, ih, List.map_append, List.mem_append, List.map_singleton,
      List.mem_singleton, or_assoc]

/-! ### The outcome -/

/-- Behind a list of fields another one is added if its key is new to the form and to the list. -/
theorem Reachable.add_append (hform : form.Reachable) (fields : List Field) (field : Field) :
    ((form.append fields).add field).1.fields = (form.append fields).fields ++
      (if field.key ∉ form.keys ∧ field.key ∉ fields.map Field.key then [field] else []) ∧
    (((form.append fields).add field).2 = true ↔
      field.key ∉ form.keys ∧ field.key ∉ fields.map Field.key) := by
  have h : (form.append fields).Indexed := (hform.append fields).indexed
  have hnew : field.key ∉ (form.append fields).keys ↔
      field.key ∉ form.keys ∧ field.key ∉ fields.map Field.key := by
    rw [hform.mem_keys_append, not_or]
  by_cases hkey : field.key ∈ (form.append fields).keys
  · have hold : ¬(field.key ∉ form.keys ∧ field.key ∉ fields.map Field.key) :=
      fun hboth => hnew.2 hboth hkey
    rw [h.add_of_mem hkey, if_neg hold, List.append_nil]
    exact ⟨rfl, iff_of_false Bool.false_ne_true hold⟩
  · rw [h.add_of_not_mem hkey, if_pos (hnew.1 hkey)]
    exact ⟨rfl, iff_of_true rfl (hnew.1 hkey)⟩

theorem Reachable.fields_append (hform : form.Reachable) (fields : List Field) :
    (form.append fields).fields = form.fields ++ form.newcomers fields := by
  -- from the end: the last field meets the keys of the form and of all fields before it
  induction fields using List.reverseRecOn with
  | nil => exact (List.append_nil _).symm
  | append_singleton fields field ih =>
    rw [append_concat, (hform.add_append fields field).1, ih, newcomers_concat, List.append_assoc]

theorem Reachable.addAll_snd (hform : form.Reachable) (fields : List Field) :
    (form.addAll fields).2 = true ↔
      (fields.map Field.key).Nodup ∧ ∀ field ∈ fields, field.key ∉ form.keys := by
  induction fields using List.reverseRecOn with
  | nil => exact iff_of_true rfl ⟨List.nodup_nil, fun _ hfield => nomatch hfield⟩
  | append_singleton fields field ih =>
    have hnodup : ((fields ++ [field]).map Field.key).Nodup ↔
        field.key ∉ fields.map Field.key ∧ (fields.map Field.key).Nodup := by
      rw [List.map_append, List.map_singleton, ← List.concat_eq_append, List.nodup_concat]
    have hkeys : (∀ other ∈ fields ++ [field], other.key ∉ form.keys) ↔
        (∀ other ∈ fields, other.key ∉ form.keys) ∧ field.key ∉ form.keys := by
      rw [List.forall_mem_append, List.forall_mem_singleton]
    rw [addAll_concat, Bool.and_eq_true, (hform.add_append fields field).2, ih, hnodup, hkeys]
    tauto

/-- Adding fields leaves those of the form as they are and puts the newcomers behind them, and the
verdict tells whether all fields have keys of their own that the form lacks.  A form of two lists is
the form of the first with the second added. -/
theorem Reachable.addAll_admits (hform : form.Reachable) (fields : List Field) :
    form.append fields = (form.addAll fields).1 ∧
    (form.addAll fields).1.fields = form.fields ++ form.newcomers fields ∧
    ((form.addAll fields).2 = true ↔
      (fields.map Field.key).Nodup ∧ ∀ field ∈ fields, field.key ∉ form.keys) ∧
    ∀ before after, ofFields (before ++ after) = (ofFields before).append after := by
  refine ⟨rfl, hform.fields_append fields, hform.addAll_snd fields, ?_⟩
  intro before after
  exact append_append empty before after

/-- Of two new fields with one key the first is taken, and one whose key the form has is not. -/
theorem Reachable.addAll_admits_first :
    let a : Field := ⟨"a", .scalar "1", .oneOf [], ""⟩
    let b : Field := ⟨"b", .scalar "2", .oneOf [], ""⟩
    let c : Field := ⟨"c", .scalar "3", .oneOf [], ""⟩
    let form := ofFields [a]
    let fields := [{ a with name := "x" }, b, { b with name := "y" }, c]
    form.Reachable ∧ (form.append fields).fields = [a, b, c] ∧ (form.addAll fields).2 ≠ true := by
  intro a b c form fields
  have hform : form.Reachable := reachable_ofFields [a]
  obtain ⟨hsame, hfields, hverdict, -⟩ := hform.addAll_admits fields
  refine ⟨hform, ?_, ?_⟩
  · rw [hsame, hfields]
    rfl
  · rw [Ne, hverdict]
    exact fun h => h.2 _ List.mem_cons_self (by decide)

end Form

end FormRules
