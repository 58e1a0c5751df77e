import FormRules.Proofs.Number.Literal
import FormRules.Proofs.Rules.Pairs
import FormRules.Rules.Rules
import Mathlib.Data.List.Nodup

/-!
# Rule texts with bounds

A rule text that lists pairs of different names has the same rules in every order of the pairs.  In
particular a type, the rule `required` and two bounds are read from any of their 24 orders.
-/

namespace FormRules

open FormRules.Text FormRules.RuleText

/-! ### Maps of lists without repeated names -/

namespace NameMap

variable {α : Type} {entries others : List (String × α)}

theorem get?_ofList_of_nodup (h : (entries.map Prod.fst).Nodup) {name : String} {a : α} :
    (ofList entries).get? name = some a ↔ (name, a) ∈ entries := by
  rw [get?_ofList, Option.map_eq_some_iff]
  constructor
  · intro hfind
    obtain ⟨entry, hentry, hvalue⟩ := hfind
    have hname : entry.1 = name := by simpa using List.find?_some hentry
    rw [← hname, ← hvalue]
    exact List.mem_reverse.1 (List.mem_of_find?_eq_some hentry)
  · intro hmem
    have hsome : (entries.reverse.find? fun entry => entry.1 == name).isSome = true := by
      rw [List.find?_isSome]
      exact ⟨(name, a), List.mem_reverse.2 hmem, beq_self_eq_true name⟩
    obtain ⟨entry, hentry⟩ := Option.isSome_iff_exists.1 hsome
    have hname : entry.1 = name := by simpa using List.find?_some hentry
    have hfound : entry ∈ entries := List.mem_reverse.1 (List.mem_of_find?_eq_some hentry)
    have heq : entry = (name, a) := List.inj_on_of_nodup_map h hfound hmem hname
    exact ⟨entry, hentry, by rw [heq]⟩

theorem ofList_perm (hperm : entries.Perm others) (h : (others.map Prod.fst).Nodup) :
    ofList entries = ofList others := by
  have hentries : (entries.map Prod.fst).Nodup := (hperm.map Prod.fst).nodup_iff.2 h
  apply ext_get?
  intro name
  apply Option.ext
  intro a
  rw [get?_ofList_of_nodup hentries, get?_ofList_of_nodup h, hperm.mem_iff]

end NameMap

/-! ### Plain pairs -/

namespace RuleText

/-- Pairs with a colon in each and bars between them. -/
def ofPairs (pairs : List (String × String)) : String :=
  String.ofList (['|'].intercalate
    (pairs.map fun pair => pair.1.toList ++ ':' :: pair.2.toList))

/-- A name of letters with a value that no slash starts. -/
structure IsPlainPair (pair : String × String) : Prop where
  name_ne_nil : pair.1.toList ≠ []
  isAlpha_name : ∀ c ∈ pair.1.toList, c.isAlpha = true
  isValue : IsPlainValue pair.2.toList

/-- The pair with a colon and no blank characters. -/
def IsPlainPair.written {pair : String × String} (h : IsPlainPair pair) : WrittenPair where
  before := []
  name := pair.1.toList
  gap := []
  separator := ':'
  lead := []
  value := pair.2.toList
  after := []
  blank_before := .nil
  blank_gap := .nil
  blank_lead := .nil
  blank_after := .nil
  name_ne_nil := h.name_ne_nil
  isAlpha_name := h.isAlpha_name
  isSeparator := Or.inl rfl
  isValue := Or.inl h.isValue

theorem exists_written {pairs : List (String × String)} (h : ∀ pair ∈ pairs, IsPlainPair pair) :
    ∃ ps : List WrittenPair,
      ps.map WrittenPair.text = (pairs.map fun pair => pair.1.toList ++ ':' :: pair.2.toList) ∧
      (ps.map fun p => (String.ofList p.name, String.ofList p.value)) = pairs := by
  induction pairs with
  | nil => exact ⟨[], rfl, rfl⟩
  | cons pair pairs ih =>
    have hpair := h pair List.mem_cons_self
    obtain ⟨ps, htext, hpairs⟩ := ih fun other hother => h other (List.mem_cons_of_mem _ hother)
    have hwritten : hpair.written.text = pair.1.toList ++ ':' :: pair.2.toList := by
      simp [IsPlainPair.written, WrittenPair.text]
    refine ⟨hpair.written :: ps, ?_, ?_⟩
    · rw [List.map_cons, List.map_cons, htext, hwritten]
    · rw [List.map_cons, hpairs]
      simp [IsPlainPair.written]

/-- Plain pairs are read as they are written. -/
theorem ofText_ofPairs {pairs : List (String × String)} (h : ∀ pair ∈ pairs, IsPlainPair pair) :
    RulePairs.ofText (ofPairs pairs) = NameMap.ofList pairs := by
  obtain ⟨ps, htext, hpairs⟩ := exists_written h
  obtain ⟨qs, htrim, hentries⟩ := trim_intercalate ps
  have hread := (pairs_intercalate qs).trans hentries
  rw [RulePairs.ofText, ofPairs, String.toList_ofList, ← htext, htrim, hread, List.map_map, ← hpairs]
  rfl

end RuleText

/-! ### A type and two bounds -/

/-- The pairs of a required field with a type and two bounds. -/
def RuleText.boundPairs (fieldType : FieldType) (lo hi : String) : List (String × String) :=
  [("type", fieldType.name), ("required", "true"), ("min", lo), ("max", hi)]

theorem Rules.ofMap_boundPairs {fieldType : FieldType} (lo hi : String)
    (hname : FieldType.ofName fieldType.name = fieldType) :
    Rules.ofMap (NameMap.ofList (boundPairs fieldType lo hi)) =
      { required := true, fieldType := fieldType, min := numberOf? lo, max := numberOf? hi } := by
  have hentries : (NameMap.ofList (boundPairs fieldType lo hi)).entries =
      [("max", hi), ("min", lo), ("required", "true"), ("type", fieldType.name)] := by
    -- the pairs come in falling order of their names, so each goes to the front
    simp only [boundPairs, NameMap.ofList, List.foldl_cons, List.foldl_nil, NameMap.insert,
      NameMap.empty]
    rw [putEntry, putEntry_of_lt (by decide), putEntry_of_lt (by decide),
      putEntry_of_lt (by decide)]
  rw [Rules.ofMap, hentries]
  simp only [Rules.ofEntries, List.foldl_cons, List.foldl_nil]
  simp [Rules.set, hname, Rules.isOn]

/-! ### Literals as values of pairs -/

namespace Numeral

theorem Literal.char_of_mem (l : Literal) {c : Char} (hc : c ∈ l.text) :
    isBlank c = false ∧ c ≠ '|' ∧ c ≠ '/' := by
  cases l.mem_text hc with
  | inr hmark =>
    simp only [List.mem_cons, List.not_mem_nil, or_false] at hmark
    obtain rfl | rfl | rfl | rfl | rfl := hmark <;> decide
  | inl hdigit =>
    have hnot (d : Char) (hd : d.isDigit = false) : c ≠ d := by
      intro heq
      rw [heq, hd] at hdigit
      exact Bool.false_ne_true hdigit
    exact ⟨isBlank_of_isDigit hdigit, hnot '|' rfl, hnot '/' rfl⟩

theorem Literal.text_ne_nil (l : Literal) : l.text ≠ [] := by
  intro hnil
  simp only [text, Mantissa.text, List.append_eq_nil_iff] at hnil
  obtain ⟨-, ⟨hwhole, hpoint⟩, -⟩ := hnil
  have hfraction := l.mantissa.hasDigit.resolve_left (absurd hwhole)
  cases h : l.mantissa.fraction with
  | none => simp [h] at hfraction
  | some digits => simp [h, Mantissa.pointText] at hpoint

theorem Denotes.isPlainValue {s : List Char} {q : ℚ} (h : Denotes s q) : IsPlainValue s := by
  obtain ⟨l, htext, -⟩ := h
  rw [← htext]
  exact
    { ne_nil := l.text_ne_nil
      noBar := fun hmem => (l.char_of_mem hmem).2.1 rfl
      starts := fun c hc => (l.char_of_mem (List.mem_of_head? hc)).1
      ends := fun c hc => (l.char_of_mem (List.mem_of_getLast? hc)).1
      noSlash := fun hc => (l.char_of_mem (List.mem_of_head? hc)).2.2 rfl }

end Numeral

theorem RuleText.isPlainValue_word {word : List Char} (hne : word ≠ [])
    (hword : ∀ c ∈ word, c.isAlpha = true) : IsPlainValue word where
  ne_nil := hne
  noBar := fun hmem => Bool.false_ne_true (hword _ hmem)
  starts := fun c hc => isBlank_of_isAlpha (hword c (List.mem_of_head? hc))
  ends := fun c hc => isBlank_of_isAlpha (hword c (List.mem_of_getLast? hc))
  noSlash := fun hc => Bool.false_ne_true (hword _ (List.mem_of_head? hc))

/-- The rules of a required field with a type and two bounds, whatever the order of the pairs. -/
theorem Rules.ofText_of_perm {fieldType : FieldType} {lo hi : String} {a b : ℚ}
    {pairs : List (String × String)} (hperm : pairs.Perm (boundPairs fieldType lo hi))
    (hknown : fieldType.isKnown = true) (hlo : Numeral.Denotes lo.toList a)
    (hhi : Numeral.Denotes hi.toList b) :
    Rules.ofText (ofPairs pairs) =
      { required := true, fieldType := fieldType, min := numberOf? lo, max := numberOf? hi } := by
  have hname : FieldType.ofName fieldType.name = fieldType ∧ fieldType.name.toList ≠ [] ∧
      ∀ c ∈ fieldType.name.toList, c.isAlpha = true := by
    cases fieldType with
    | unknown name => exact absurd hknown Bool.false_ne_true
    | _ => exact ⟨rfl, by simp [FieldType.name], by simp [FieldType.name]⟩
  have hnames : ∀ name ∈ ["type", "required", "min", "max"],
      name.toList ≠ [] ∧ ∀ c ∈ name.toList, c.isAlpha = true := by simp
  have hplain : ∀ pair ∈ pairs, IsPlainPair pair := by
    intro pair hpair
    have hcases := hperm.mem_iff.1 hpair
    simp only [boundPairs, List.mem_cons, List.not_mem_nil, or_false] at hcases
    have hmem : pair.1 ∈ ["type", "required", "min", "max"] := by
      obtain rfl | rfl | rfl | rfl := hcases <;> simp
    have hvalue : IsPlainValue pair.2.toList := by
      obtain rfl | rfl | rfl | rfl := hcases
      · exact isPlainValue_word hname.2.1 hname.2.2
      · exact isPlainValue_word (by simp) (by simp)
      · exact hlo.isPlainValue
      · exact hhi.isPlainValue
    exact ⟨(hnames _ hmem).1, (hnames _ hmem).2, hvalue⟩
  have hnodup : ((boundPairs fieldType lo hi).map Prod.fst).Nodup := by
    simp [boundPairs]
  rw [Rules.ofText, ofText_ofPairs hplain, NameMap.ofList_perm hperm hnodup]
  exact Rules.ofMap_boundPairs lo hi hname.1

end FormRules
