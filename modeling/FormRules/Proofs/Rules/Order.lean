import FormRules.Form.Basic
import FormRules.Proofs.Rules.Bounds

/-!
# The order of the pairs does not matter

The rules are gathered from the pairs of a map one after the other.  Each name with a meaning
decides one slot, whatever comes before and after it, and the pairs of all other names are kept as
they are.  So the rules are the same in every order of the pairs, and with them the verdicts on a
form.
-/

namespace FormRules

namespace NameMap

variable {α : Type} {m : NameMap α}

/-! ### Some of the names -/

/-- The entries whose names meet a condition. -/
def filter (m : NameMap α) (p : String → Bool) : NameMap α :=
  ⟨m.entries.filter fun e => p e.1, m.ascending.filter _⟩

theorem mem_entries_filter {p : String → Bool} {name : String} {a : α} :
    (name, a) ∈ (m.filter p).entries ↔ p name = true ∧ (name, a) ∈ m.entries := by
  simp only [filter, List.mem_filter, and_comm]

theorem get?_filter (p : String → Bool) (name : String) :
    (m.filter p).get? name = if p name then m.get? name else none := by
  apply Option.ext
  intro a
  rw [← mem_entries, mem_entries_filter, mem_entries]
  split <;> simp_all

theorem filter_insert (p : String → Bool) (name : String) (a : α) :
    (m.insert name a).filter p = if p name then (m.filter p).insert name a else m.filter p := by
  apply ext_get?
  intro other
  by_cases hname : p name = true
  · rw [if_pos hname, get?_filter, get?_insert, get?_insert, get?_filter]
    by_cases hother : other = name
    · rw [if_pos hother, if_pos hother, hother, if_pos hname]
    · rw [if_neg hother, if_neg hother]
  · rw [if_neg hname, get?_filter, get?_filter, get?_insert]
    by_cases hother : other = name
    · rw [hother, if_neg hname, if_neg hname]
    · rw [if_neg hother]

/-! ### Orders of the entries -/

/-- The entries of a map, in some order. -/
structure Traversal (m : NameMap α) where
  entries : List (String × α)
  perm : entries.Perm m.entries

theorem nodup_names (m : NameMap α) : (m.entries.map Prod.fst).Nodup := by
  rw [List.Nodup, List.pairwise_map]
  apply m.ascending.imp
  intro e other hlt heq
  exact String.lt_irrefl other.1 (heq ▸ hlt)

theorem ofList_entries (m : NameMap α) : ofList m.entries = m := by
  apply ext_get?
  intro name
  apply Option.ext
  intro a
  rw [get?_ofList_of_nodup m.nodup_names, mem_entries]

/-- A map is got back from its entries in any order. -/
theorem Traversal.ofList_entries (order : m.Traversal) : ofList order.entries = m := by
  rw [ofList_perm order.perm m.nodup_names, m.ofList_entries]

end NameMap

/-! ### Slot by slot -/

namespace Rules

/-- The names that have a meaning. -/
def knownNames : List String :=
  ["required", "type", "max", "min", "format", "regex", "positive", "negative", "nonzero"]

/-- The rules of a map, each slot from what stands under its name. -/
def bySlot (m : RulePairs) : Rules where
  required := (m.get? "required").any isOn
  fieldType := (m.get? "type").elim .string .ofName
  max := (m.get? "max").bind numberOf?
  min := (m.get? "min").bind numberOf?
  format := m.get? "format"
  regex := m.get? "regex"
  positive := (m.get? "positive").any isOn
  negative := (m.get? "negative").any isOn
  nonzero := (m.get? "nonzero").any isOn
  extra := m.filter fun name => name ∉ knownNames

theorem set_of_not_mem {name : String} (h : name ∉ knownNames) (rules : Rules) (value : String) :
    rules.set name value = { rules with extra := rules.extra.insert name value } := by
  simp only [knownNames, List.mem_cons, List.not_mem_nil, or_false, not_or] at h
  unfold set
  split <;> simp_all

/-- One more pair sets the slot of its name, or is kept with the other names. -/
theorem bySlot_insert (m : RulePairs) (name value : String) :
    bySlot (m.insert name value) = (bySlot m).set name value := by
  by_cases h : name ∈ knownNames
  · simp only [knownNames, List.mem_cons, List.not_mem_nil, or_false] at h
    obtain rfl | rfl | rfl | rfl | rfl | rfl | rfl | rfl | rfl := h <;>
      simp [bySlot, set, NameMap.get?_insert, NameMap.filter_insert, knownNames]
  · have hget : ∀ known ∈ knownNames, (m.insert name value).get? known = m.get? known := by
      intro known hknown
      rw [NameMap.get?_insert, if_neg (ne_of_mem_of_not_mem hknown h)]
    have hextra : (m.insert name value).filter (fun name => name ∉ knownNames) =
        (m.filter fun name => name ∉ knownNames).insert name value := by
      rw [NameMap.filter_insert, if_pos (decide_eq_true h)]
    simp only [knownNames, List.forall_mem_cons] at hget
    simp only [set_of_not_mem h, bySlot, hextra, hget]

theorem foldl_set_bySlot (entries : List (String × String)) (m : RulePairs) :
    entries.foldl (fun rules e => rules.set e.1 e.2) (bySlot m) =
      bySlot (entries.foldl (fun m e => m.insert e.1 e.2) m) := by
  induction entries generalizing m with
  | nil => rfl
  | cons e entries ih => rw [List.foldl_cons, List.foldl_cons, ← bySlot_insert, ih]

theorem ofEntries_eq_bySlot (entries : List (String × String)) :
    ofEntries entries = bySlot (NameMap.ofList entries) := foldl_set_bySlot entries .empty

end Rules

/-! ### Verdicts in every order -/

/-- An order of the entries for each map of pairs. -/
abbrev PairOrder := ∀ m : RulePairs, m.Traversal

/-- The rules of a text where the pairs are gone through in the given order. -/
def Rules.ofTextBy (order : PairOrder) (ruleText : String) : Rules :=
  ofEntries (order (RulePairs.ofText ruleText)).entries

/-- Whether the value meets the constraint where the pairs are gone through in the given order. -/
def Constraint.permitsBy (order : PairOrder) (constraint : Constraint) (value : Value) : Bool :=
  match constraint with
  | .oneOf values => values.contains value
  | .rules text =>
    let rules := Rules.ofTextBy order text
    (!rules.required && !rules.fieldType.isGiven value) || rules.accepts value

/-- The keys of the fields that do not pass where each field has an order of its own. -/
def Form.failingKeysBy (orders : ℕ → PairOrder) (form : Form) : List String :=
  (form.fields.zipIdx.filter fun (field, i) =>
    !field.constraint.permitsBy (orders i) field.value).map fun (field, _) => field.key

theorem Rules.ofEntries_traversal {m : RulePairs} (order : m.Traversal) :
    ofEntries order.entries = bySlot m := by
  rw [ofEntries_eq_bySlot, order.ofList_entries]

theorem Rules.ofMap_eq_bySlot (m : RulePairs) : ofMap m = bySlot m :=
  ofEntries_traversal ⟨m.entries, .refl _⟩

theorem Constraint.permitsBy_eq (order : PairOrder) (constraint : Constraint) (value : Value) :
    constraint.permitsBy order value = constraint.permits value := by
  cases constraint with
  | oneOf values => rfl
  | rules text =>
    have hrules : Rules.ofTextBy order text = Rules.ofText text := by
      rw [Rules.ofTextBy, Rules.ofEntries_traversal, Rules.ofText, Rules.ofMap_eq_bySlot]
    rw [permitsBy, permits, hrules]

theorem Form.failingKeysBy_eq (orders : ℕ → PairOrder) (form : Form) :
    form.failingKeysBy orders = form.failingKeys := by
  have hfields : form.fields = form.fields.zipIdx.map Prod.fst := (List.zipIdx_map_fst 0 _).symm
  rw [failingKeys, hfields, List.filter_map, List.map_map, failingKeysBy]
  simp only [Constraint.permitsBy_eq]
  rfl

/-- The rules of a map of pairs are the same in every order: each name with a meaning decides its
own slot, the pairs of all other names are kept as they are, and the verdicts on a form are the
same. -/
theorem Rules.ofEntries_order_free (m : RulePairs) (order other : m.Traversal) :
    ofEntries order.entries = ofEntries other.entries ∧
      ofEntries order.entries = bySlot m ∧
      (∀ name value, (name, value) ∈ (ofEntries order.entries).extra.entries ↔
        name ∉ knownNames ∧ (name, value) ∈ m.entries) ∧
      ∀ (orders : ℕ → PairOrder) (form : Form), form.failingKeysBy orders = form.failingKeys := by
  have horder := ofEntries_traversal order
  refine ⟨horder.trans (ofEntries_traversal other).symm, horder, ?_, Form.failingKeysBy_eq⟩
  intro name value
  rw [horder, bySlot, NameMap.mem_entries_filter, decide_eq_true_iff]

end FormRules
