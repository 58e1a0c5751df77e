import FormRules.Form.Session
import FormRules.Proofs.Form.Lookup

/-!
# The forms of a session

Every command leads from reachable forms to reachable forms, so that in every form a session comes
to the index tells the place of each key.
-/

namespace FormRules

/-! ### Forms of outlines -/

theorem FormOutline.reachable_of_addDistinct {form next : Form} {entries : List FieldOutline}
    (h : form.Reachable) (hadd : addDistinct form entries = .ok next) : next.Reachable := by
  induction entries generalizing form with
  | nil =>
    cases hadd
    exact h
  | cons entry entries ih =>
    rw [addDistinct] at hadd
    split at hadd
    · cases hadd
    · rename_i field _
      split at hadd
      · rename_i added hstep
        have hadded : added = (form.add field).1 := by rw [hstep]
        exact ih (hadded ▸ h.addStep field) hadd
      · cases hadd

theorem FormOutline.reachable_of_buildDistinct {outline : FormOutline} {form : Form}
    (h : outline.buildDistinct = .ok form) : form.Reachable :=
  reachable_of_addDistinct .start h

theorem FormOutline.reachable_of_build {outline : FormOutline} {form : Form}
    (h : outline.build = .ok form) : form.Reachable := by
  rw [build] at h
  split at h
  · cases h
    exact Form.reachable_ofFields _
  · cases h

namespace Session

/-- Both forms of the session are reachable. -/
structure IsReachable (session : Session) : Prop where
  form : session.form.Reachable
  saved : session.saved.Reachable

/-! ### One command -/

theorem IsReachable.step {session : Session} (h : session.IsReachable) (command : Command) :
    (session.step command).IsReachable := by
  cases command with
  | clear => exact ⟨.start, h.saved⟩
  | collect fields => exact ⟨Form.reachable_ofFields fields, h.saved⟩
  | add field => exact ⟨h.form.addStep field, h.saved⟩
  | addAll fields => exact ⟨h.form.append fields, h.saved⟩
  | append fields => exact ⟨h.form.append fields, h.saved⟩
  | edit key e =>
    rw [Session.step]
    split
    · rename_i form hedit
      exact ⟨h.form.editStep hedit, h.saved⟩
    · exact h
  | save => exact ⟨h.form, h.form⟩
  | restore => exact ⟨h.saved, h.saved⟩
  | load outline =>
    rw [Session.step]
    split
    · rename_i form hbuild
      exact ⟨FormOutline.reachable_of_build hbuild, h.saved⟩
    · exact h
  | loadDistinct outline =>
    rw [Session.step]
    split
    · rename_i form hbuild
      exact ⟨FormOutline.reachable_of_buildDistinct hbuild, h.saved⟩
    · exact h

/-! ### Every run -/

theorem isReachable_run (commands : List Command) : (run commands).IsReachable := by
  have hrun : ∀ session : Session, session.IsReachable →
      (commands.foldl Session.step session).IsReachable := by
    induction commands with
    | nil => exact fun _ h => h
    | cons command commands ih =>
      intro session h
      exact ih (session.step command) (h.step command)
  exact hrun {} ⟨.start, .start⟩

/-- Whatever commands led to a form, its keys are distinct, its index has one entry for each field,
from the key to the place, and a lookup or a change of a key finds the one field that has it. -/
theorem lookup_run (commands : List Command) :
    let form := (run commands).form
    form.keys.Nodup ∧
    form.index.entries.Perm form.keys.zipIdx ∧
    (∀ key i, form.index.get? key = some i → i < form.fields.length) ∧
    (∀ key, (form.get? key).isSome ↔ key ∈ form.keys) ∧
    (∀ key field, form.get? key = some field ↔ field ∈ form.fields ∧ field.key = key) ∧
    (∀ key e, form.edit? key e =
      if key ∈ form.keys then
        some { form with
          fields := form.fields.map fun field => if field.key = key then field.edit e else field }
      else none) := by
  intro form
  have h : form.Indexed := (isReachable_run commands).form.indexed
  exact ⟨h.nodup_keys, h.entries_perm, fun _ _ => h.lt_length, fun _ => h.isSome_get?,
    fun _ _ => h.get?_eq_some_iff, h.edit?_eq⟩

end Session

end FormRules
