import FormRules.Form.Snapshot
import FormRules.Proofs.Form.Session

/-!
# Equal forms

A form also holds its index, so that equal fields alone do not make forms equal.  In the forms of
sessions the index is determined by the fields, whatever led there.
-/

namespace FormRules

namespace Form

variable {form other : Form}

theorem snapshots_eq_iff : form.snapshots = other.snapshots ↔ form.fields = other.fields := by
  have hinjective : Function.Injective FieldSnapshot.ofField :=
    fun _ _ h => FieldSnapshot.ofField_injective h
  exact (List.map_injective_iff.2 hinjective).eq_iff

end Form

namespace Session

/-- The forms that two runs lead to are equal if their fields are, and if the snapshots of their
fields are.  Making a form from the fields of one gives an equal form. -/
theorem form_beq_iff (commands others : List Command) :
    let form := (run commands).form
    let other := (run others).form
    ((form == other) = true ↔ form.fields = other.fields) ∧
    (form.fields = other.fields ↔ form.snapshots = other.snapshots) ∧
    (Form.ofFields form.fields == form) = true := by
  intro form other
  have hform : form.Reachable := (isReachable_run commands).form
  have hother : other.Reachable := (isReachable_run others).form
  refine ⟨?_, Form.snapshots_eq_iff.symm, ?_⟩
  · rw [beq_iff_eq, hform.eq_iff hother]
  · rw [beq_iff_eq, hform.ofFields_fields]

/-- Fields that came one by one, one of them changed later, make the same form as all at once. -/
example :
    let a : Field := ⟨"a", .scalar "1", .oneOf [], ""⟩
    let b : Field := ⟨"b", .scalar "2", .oneOf [], ""⟩
    (run [.add { a with name := "x" }, .addAll [a, b], .edit "a" (.name "")]).form =
      (run [.save, .collect [a, b, a]]).form := by
  decide

end Session

end FormRules
