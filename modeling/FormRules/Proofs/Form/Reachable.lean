import FormRules.Form.Basic
import Mathlib.Data.List.Nodup

/-!
# Reachable forms

A form starts empty, and only additions and changes of its fields lead on.  In every form they
lead to the index tells the place of each key, so that no two fields share a key.
-/

namespace FormRules

namespace Form

variable {form next : Form} {key : String}

/-- A form that additions and changes of fields lead to. -/
inductive Reachable : Form → Prop
  | start : Reachable empty
  | addStep {form : Form} (field : Field) : Reachable form → Reachable (form.add field).1
  | editStep {form next : Form} {key : String} {e : FieldEdit} : Reachable form →
      form.edit? key e = some next → Reachable next

/-- The index holds each key with its place, and nothing else. -/
def Indexed (form : Form) : Prop :=
  ∀ key i, form.index.get? key = some i ↔ form.keys[i]? = some key

/-! ### One step -/

theorem add_of_get?_eq_none {field : Field} (h : form.index.get? field.key = none) :
    (form.add field).1 =
      ⟨form.fields ++ [field], form.index.insert field.key form.fields.length⟩ := by
  rw [add, h]

theorem add_of_get?_eq_some {field : Field} {i : Nat} (h : form.index.get? field.key = some i) :
    (form.add field).1 = form := by
  rw [add, h]

/-- A change of a field leaves the keys and the index as they are. -/
theorem keys_edit? {e : FieldEdit} (h : form.edit? key e = some next) :
    next.keys = form.keys ∧ next.index = form.index := by
  obtain ⟨i, -, rfl⟩ := Option.map_eq_some_iff.1 h
  refine ⟨?_, rfl⟩
  apply List.ext_getElem?
  intro j
  simp only [keys, List.getElem?_map, List.getElem?_modify]
  split
  · cases form.fields[j]? with
    | none => rfl
    | some field => exact congrArg some (Field.key_edit field e)
  · cases form.fields[j]? <;> rfl

theorem empty_indexed : empty.Indexed := by
  intro key i
  exact iff_of_false (nomatch ·) (nomatch ·)

theorem getElem?_concat_eq_some {α : Type} {items : List α} {last item : α} {i : Nat} :
    (items ++ [last])[i]? = some item ↔
      items[i]? = some item ∨ i = items.length ∧ item = last := by
  rcases Nat.lt_trichotomy i items.length with hi | rfl | hi
  · rw [List.getElem?_append_left hi, or_iff_left]
    exact fun hlast => Nat.ne_of_lt hi hlast.1
  · rw [List.getElem?_concat_length, List.getElem?_eq_none (Nat.le_refl _), Option.some.injEq]
    exact ⟨fun h => Or.inr ⟨rfl, h.symm⟩, fun h => (h.resolve_left (nomatch ·)).2.symm⟩
  · have hnone : (items ++ [last])[i]? = none := by
      rw [List.getElem?_eq_none_iff, List.length_append, List.length_singleton]
      exact hi
    rw [hnone, List.getElem?_eq_none (Nat.le_of_lt hi)]
    exact iff_of_false (nomatch ·) fun h => Nat.ne_of_gt hi (h.resolve_left (nomatch ·)).1

theorem Indexed.add (h : form.Indexed) (field : Field) : (form.add field).1.Indexed := by
  cases hkey : form.index.get? field.key with
  | some i => rwa [add_of_get?_eq_some hkey]
  | none =>
    rw [add_of_get?_eq_none hkey]
    intro key i
    have hlength : form.keys.length = form.fields.length := List.length_map _
    have hkeys : (form.fields ++ [field]).map Field.key = form.keys ++ [field.key] :=
      List.map_append
    rw [NameMap.get?_insert, keys, hkeys, getElem?_concat_eq_some, ← h key i, hlength]
    -- the new key had no place before, and the other keys keep theirs
    by_cases hname : key = field.key
    · rw [if_pos hname, hname, hkey, Option.some.injEq]
      exact ⟨fun hi => Or.inr ⟨hi.symm, rfl⟩, fun hi => (hi.resolve_left (nomatch ·)).1.symm⟩
    · rw [if_neg hname]
      exact (or_iff_left fun hlast => hname hlast.2).symm

theorem Indexed.edit? {e : FieldEdit} (h : form.Indexed) (hedit : form.edit? key e = some next) :
    next.Indexed := by
  obtain ⟨hkeys, hindex⟩ := keys_edit? hedit
  intro name i
  rw [hkeys, hindex]
  exact h name i

theorem Indexed.nodup_keys (h : form.Indexed) : form.keys.Nodup := by
  rw [List.nodup_iff_getElem?_ne_getElem?]
  intro i j hij hj heq
  have hkey : form.keys[j]? = some form.keys[j] := List.getElem?_eq_getElem hj
  have hi := (h _ i).2 (heq.trans hkey)
  have hj := (h _ j).2 hkey
  rw [hi, Option.some.injEq] at hj
  exact Nat.ne_of_lt hij hj

/-! ### Every run -/

theorem Reachable.indexed (h : form.Reachable) : form.Indexed := by
  induction h with
  | start => exact empty_indexed
  | addStep field _ ih => exact ih.add field
  | editStep _ hedit ih => exact ih.edit? hedit

theorem append_eq_foldl (form : Form) (fields : List Field) :
    form.append fields = fields.foldl (fun form field => (form.add field).1) form :=
  (List.foldl_hom Prod.fst fun _ _ => rfl).symm

theorem Reachable.append (fields : List Field) (h : form.Reachable) :
    (form.append fields).Reachable := by
  rw [append_eq_foldl]
  induction fields generalizing form with
  | nil => exact h
  | cons field fields ih => exact ih (h.addStep field)

theorem reachable_ofFields (fields : List Field) : (ofFields fields).Reachable :=
  Reachable.start.append fields

/-! ### Verdicts -/

/-- Of the fields of a reachable form, the keys that are reported are those of the fields that do
not pass. -/
theorem Reachable.mem_failingKeys (h : form.Reachable) {field : Field}
    (hfield : field ∈ form.fields) : field.key ∈ form.failingKeys ↔ field.passes = false := by
  simp only [failingKeys, List.mem_map, List.mem_filter, Bool.not_eq_true']
  constructor
  · rintro ⟨other, ⟨hother, hfails⟩, hkey⟩
    have heq : other = field :=
      List.inj_on_of_nodup_map h.indexed.nodup_keys hother hfield hkey
    rwa [← heq]
  · exact fun hfails => ⟨field, ⟨hfield, hfails⟩, rfl⟩

end Form

end FormRules
