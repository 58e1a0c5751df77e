/-!
# Maps from names

Entries are kept in the order of their names, by code point, and no name occurs twice.  A map is
determined by what it holds under each name: `NameMap.ext_get?`.

Stands for the hash maps of `RuleMap`, of the `extra` rules and of the index of a `Form`; no result
of theirs depends on the order of a hash map.
-/

namespace FormRules

variable {α : Type}

/-! ### Lists of entries -/

/-- The entries are in strictly increasing order of their names. -/
def NamesAscend (entries : List (String × α)) : Prop := entries.Pairwise fun a b => a.1 < b.1

/-- Puts an entry in its place; it replaces the entry of the same name. -/
def putEntry (name : String) (a : α) : List (String × α) → List (String × α)
  | [] => [(name, a)]
  | (other, b) :: rest =>
    if name < other then (name, a) :: (other, b) :: rest
    else if name = other then (name, a) :: rest
    else (other, b) :: putEntry name a rest

theorem putEntry_of_lt {name other : String} (h : name < other) (a b : α)
    (rest : List (String × α)) :
    putEntry name a ((other, b) :: rest) = (name, a) :: (other, b) :: rest := by
  rw [putEntry, if_pos h]

/-- What is held under a name. -/
def valueAt? (name : String) : List (String × α) → Option α
  | [] => none
  | (other, a) :: rest => if name = other then some a else valueAt? name rest

theorem mem_putEntry {name : String} {a : α} {e : String × α} {entries : List (String × α)}
    (h : e ∈ putEntry name a entries) : e = (name, a) ∨ e ∈ entries := by
  induction entries with
  | nil => exact Or.inl (List.mem_singleton.1 h)
  | cons entry rest ih =>
    obtain ⟨other, b⟩ := entry
    simp only [putEntry] at h
    split at h
    · exact (List.mem_cons.1 h)
    · split at h
      · exact (List.mem_cons.1 h).imp_right (List.mem_cons_of_mem _)
      · rcases List.mem_cons.1 h with h | h
        · exact Or.inr (h ▸ List.mem_cons_self)
        · exact (ih h).imp_right (List.mem_cons_of_mem _)

theorem namesAscend_putEntry (name : String) (a : α) {entries : List (String × α)}
    (h : NamesAscend entries) : NamesAscend (putEntry name a entries) := by
  induction entries with
  | nil => exact List.pairwise_singleton _ _
  | cons entry rest ih =>
    obtain ⟨other, b⟩ := entry
    obtain ⟨hhead, htail⟩ := List.pairwise_cons.1 h
    simp only [putEntry]
    split
    · rename_i hlt
      refine List.pairwise_cons.2 ⟨fun e he => ?_, h⟩
      rcases List.mem_cons.1 he with rfl | he
      · exact hlt
      · exact String.lt_trans hlt (hhead e he)
    · split
      · rename_i heq
        exact List.pairwise_cons.2 ⟨fun e he => heq ▸ hhead e he, htail⟩
      · rename_i hlt hne
        refine List.pairwise_cons.2 ⟨fun e he => ?_, ih htail⟩
        rcases mem_putEntry he with rfl | he
        · rcases String.le_total name other with hle | hle
          · exact absurd (String.le_antisymm hle (String.not_lt.1 hlt)) hne
          · refine Classical.byContradiction fun hnot => hne ?_
            exact String.le_antisymm (String.not_lt.1 hnot) hle
        · exact hhead e he

theorem valueAt?_putEntry_self (name : String) (a : α) (entries : List (String × α)) :
    valueAt? name (putEntry name a entries) = some a := by
  induction entries with
  | nil => simp only [putEntry, valueAt?, if_true]
  | cons entry rest ih =>
    obtain ⟨other, b⟩ := entry
    simp only [putEntry]
    split
    · simp only [valueAt?, if_true]
    · split
      · simp only [valueAt?, if_true]
      · rename_i hne
        simp only [valueAt?, if_neg hne, ih]

theorem valueAt?_putEntry_of_ne {name other : String} (a : α) (h : other ≠ name)
    (entries : List (String × α)) :
    valueAt? other (putEntry name a entries) = valueAt? other entries := by
  induction entries with
  | nil => simp only [putEntry, valueAt?, if_neg h]
  | cons entry rest ih =>
    obtain ⟨key, b⟩ := entry
    simp only [putEntry]
    split
    · simp only [valueAt?, if_neg h]
    · split
      · rename_i heq
        subst heq
        simp only [valueAt?, if_neg h]
      · simp only [valueAt?, ih]

theorem valueAt?_eq_none_of_lt {name : String} {entries : List (String × α)}
    (h : ∀ e ∈ entries, name < e.1) : valueAt? name entries = none := by
  induction entries with
  | nil => rfl
  | cons entry rest ih =>
    obtain ⟨other, b⟩ := entry
    have hlt : name < other := h (other, b) List.mem_cons_self
    have hne : name ≠ other := fun heq => String.lt_irrefl other (heq ▸ hlt)
    simp only [valueAt?, if_neg hne]
    exact ih fun e he => h e (List.mem_cons_of_mem _ he)

/-- What comes before the first name is not there. -/
theorem valueAt?_eq_none_of_lt_head {name other : String} {a : α} {rest : List (String × α)}
    (h : NamesAscend ((other, a) :: rest)) (hlt : name < other) :
    valueAt? name ((other, a) :: rest) = none :=
  valueAt?_eq_none_of_lt fun e he => by
    rcases List.mem_cons.1 he with rfl | he
    · exact hlt
    · exact String.lt_trans hlt ((List.pairwise_cons.1 h).1 e he)

theorem valueAt?_eq_some_iff {name : String} {a : α} {entries : List (String × α)}
    (h : NamesAscend entries) : valueAt? name entries = some a ↔ (name, a) ∈ entries := by
  induction entries with
  | nil => simp only [valueAt?, List.not_mem_nil, reduceCtorEq]
  | cons entry rest ih =>
    obtain ⟨other, b⟩ := entry
    obtain ⟨hhead, htail⟩ := List.pairwise_cons.1 h
    by_cases hname : name = other
    · subst hname
      have hfresh : (name, a) ∉ rest := fun hmem => String.lt_irrefl name (hhead _ hmem)
      simp only [valueAt?, if_true, Option.some.injEq, List.mem_cons, Prod.mk.injEq, true_and,
        hfresh, or_false]
      exact eq_comm
    · simp only [valueAt?, hname, if_false, ih htail, List.mem_cons, Prod.mk.injEq, false_and,
        false_or]

theorem namesAscend_ext {entries others : List (String × α)} (he : NamesAscend entries)
    (ho : NamesAscend others) (h : ∀ name, valueAt? name entries = valueAt? name others) :
    entries = others := by
  induction entries generalizing others with
  | nil =>
    cases others with
    | nil => rfl
    | cons entry rest =>
      obtain ⟨name, a⟩ := entry
      have hname := h name
      simp [valueAt?] at hname
  | cons entry rest ih =>
    obtain ⟨name, a⟩ := entry
    obtain ⟨hhead, htail⟩ := List.pairwise_cons.1 he
    cases others with
    | nil =>
      have hname := h name
      simp [valueAt?] at hname
    | cons entry' rest' =>
      obtain ⟨name', a'⟩ := entry'
      obtain ⟨hhead', htail'⟩ := List.pairwise_cons.1 ho
      have hle : ¬name < name' := fun hlt => by
        have hname := h name
        rw [valueAt?_eq_none_of_lt_head ho hlt] at hname
        simp [valueAt?] at hname
      have hge : ¬name' < name := fun hlt => by
        have hname := h name'
        rw [valueAt?_eq_none_of_lt_head he hlt] at hname
        simp [valueAt?] at hname
      have heq : name = name' :=
        String.le_antisymm (String.not_lt.1 hge) (String.not_lt.1 hle)
      subst heq
      have hname := h name
      simp only [valueAt?, if_true, Option.some.injEq] at hname
      subst hname
      have hrest : ∀ key, valueAt? key rest = valueAt? key rest' := fun key => by
        by_cases hkey : key = name
        · rw [hkey, valueAt?_eq_none_of_lt hhead, valueAt?_eq_none_of_lt hhead']
        · have hk := h key
          simpa only [valueAt?, if_neg hkey] using hk
      rw [ih htail htail' hrest]

/-! ### Maps -/

/-- Finitely many names with a value each. -/
structure NameMap (α : Type) where
  entries : List (String × α)
  ascending : NamesAscend entries

namespace NameMap

instance [DecidableEq α] : DecidableEq (NameMap α) := fun m n =>
  if h : m.entries = n.entries then
    isTrue (by cases m; cases n; cases h; rfl)
  else isFalse fun heq => h (congrArg entries heq)

/-- The map without entries. -/
def empty : NameMap α := ⟨[], List.Pairwise.nil⟩

instance : Inhabited (NameMap α) := ⟨empty⟩

/-- What the map holds under a name. -/
def get? (m : NameMap α) (name : String) : Option α := valueAt? name m.entries

/-- The map with a value under a name, in place of what was there. -/
def insert (m : NameMap α) (name : String) (a : α) : NameMap α :=
  ⟨putEntry name a m.entries, namesAscend_putEntry name a m.ascending⟩

/-- The map of a list of entries; of two with one name the later counts. -/
def ofList (entries : List (String × α)) : NameMap α :=
  entries.foldl (fun m e => m.insert e.1 e.2) empty

@[simp] theorem get?_empty (name : String) : (empty : NameMap α).get? name = none := rfl

theorem get?_insert (m : NameMap α) (name other : String) (a : α) :
    (m.insert name a).get? other = if other = name then some a else m.get? other := by
  split
  · rename_i h
    subst h
    exact valueAt?_putEntry_self _ _ _
  · rename_i h
    exact valueAt?_putEntry_of_ne _ h _

/-- What a list holds under a name is its last entry of that name. -/
theorem get?_ofList (entries : List (String × α)) (name : String) :
    (ofList entries).get? name = (entries.reverse.find? fun e => e.1 == name).map (·.2) := by
  have hfoldr : ∀ entries : List (String × α),
      (entries.foldr (fun e m => insert m e.1 e.2) empty).get? name =
        (entries.find? fun e => e.1 == name).map (·.2) := by
    intro entries
    induction entries with
    | nil => rfl
    | cons e entries ih =>
      rw [List.foldr_cons, get?_insert, List.find?_cons, ih]
      by_cases h : name = e.1
      · rw [if_pos h, h, beq_self_eq_true]
        rfl
      · rw [if_neg h, beq_false_of_ne (Ne.symm h)]
  rw [ofList, ← List.foldr_reverse]
  exact hfoldr entries.reverse

theorem mem_entries (m : NameMap α) {name : String} {a : α} :
    (name, a) ∈ m.entries ↔ m.get? name = some a :=
  (valueAt?_eq_some_iff m.ascending).symm

theorem nodup_entries (m : NameMap α) : m.entries.Nodup := by
  apply List.Pairwise.imp _ m.ascending
  intro e other hlt heq
  exact String.lt_irrefl other.1 (heq ▸ hlt)

/-- Maps that hold the same under every name are equal. -/
theorem ext_get? {m n : NameMap α} (h : ∀ name, m.get? name = n.get? name) : m = n := by
  obtain ⟨entries, hm⟩ := m
  obtain ⟨others, hn⟩ := n
  have heq : entries = others := namesAscend_ext hm hn h
  subst heq
  rfl

end NameMap

end FormRules
