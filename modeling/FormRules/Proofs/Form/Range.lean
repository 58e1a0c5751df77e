import FormRules.Proofs.Form.Bounds
import FormRules.Proofs.Number.Nearest

/-!
# Decimals within a range

A value and the two bounds of a range are decimal literals, and each of the three is rounded on its
own.  Rounding keeps their order, so that a value within the range is never reported, be the
literals as long, as large or as small as they may.
-/

namespace FormRules

open FormRules.RuleText

variable {value lo hi : String} {v a b : ℚ}

/-! ### The rules of a range -/

/-- The pairs of numbers between two bounds. -/
def RuleText.rangePairs (lo hi : String) : List (String × String) :=
  [("type", "number"), ("min", lo), ("max", hi)]

theorem RuleText.ofPairs_rangePairs (lo hi : String) :
    ofPairs (rangePairs lo hi) = "type:number|min:" ++ lo ++ "|max:" ++ hi := by
  apply String.toList_inj.1
  simp [ofPairs, rangePairs]

theorem RuleText.isPlainPair_rangePairs (hlo : Numeral.Denotes lo.toList a)
    (hhi : Numeral.Denotes hi.toList b) : ∀ pair ∈ rangePairs lo hi, IsPlainPair pair := by
  intro pair hpair
  simp only [rangePairs, List.mem_cons, List.not_mem_nil, or_false] at hpair
  obtain rfl | rfl | rfl := hpair
  · exact ⟨by simp, by simp, isPlainValue_word (by simp) (by simp)⟩
  · exact ⟨by simp, by simp, hlo.isPlainValue⟩
  · exact ⟨by simp, by simp, hhi.isPlainValue⟩

theorem Rules.ofText_rangePairs (hlo : Numeral.Denotes lo.toList a)
    (hhi : Numeral.Denotes hi.toList b) :
    Rules.ofText (ofPairs (rangePairs lo hi)) =
      { fieldType := .number, min := numberOf? lo, max := numberOf? hi } := by
  have hentries : (NameMap.ofList (rangePairs lo hi)).entries =
      [("max", hi), ("min", lo), ("type", "number")] := by
    -- the pairs come in falling order of their names, so each goes to the front
    simp only [rangePairs, NameMap.ofList, List.foldl_cons, List.foldl_nil, NameMap.insert,
      NameMap.empty]
    rw [putEntry, putEntry_of_lt (by decide), putEntry_of_lt (by decide)]
  rw [Rules.ofText, ofText_ofPairs (isPlainPair_rangePairs hlo hhi), Rules.ofMap,
    hentries]
  simp [Rules.ofEntries, Rules.set, FieldType.ofName]

/-! ### Values in the range -/

theorem Numeral.Denotes.exists_toBinary64 (h : Denotes value.toList v) :
    ∃ d : Decimal, d.value = v ∧ numberOf? value = some d.toBinary64 :=
  Denotes.exists_numberOf? (h.trim_eq.symm ▸ h)

theorem Rules.accepts_of_between (hv : Numeral.Denotes value.toList v)
    (hlo : Numeral.Denotes lo.toList a) (hhi : Numeral.Denotes hi.toList b) (hav : a ≤ v)
    (hvb : v ≤ b) :
    (Rules.ofText (ofPairs (rangePairs lo hi))).accepts (.scalar value) = true := by
  obtain ⟨d, hd, hread⟩ := hv.exists_toBinary64
  obtain ⟨least, hleast, hmin⟩ := hlo.exists_toBinary64
  obtain ⟨most, hmost, hmax⟩ := hhi.exists_toBinary64
  have hlow : least.toBinary64.le d.toBinary64 = true :=
    Decimal.toBinary64_mono (by rw [hleast, hd]; exact hav)
  have hhigh : d.toBinary64.le most.toBinary64 = true :=
    Decimal.toBinary64_mono (by rw [hd, hmost]; exact hvb)
  rw [Rules.ofText_rangePairs hlo hhi, hmin, hmax]
  simp [Rules.accepts, FieldType.criterion?, Criterion.accepts, Criterion.acceptsNumber, hread,
    Rules.admits, hlow, hhigh]

/-- A field is not reported whose value is a decimal literal of a number within the range, the
bounds of which are decimal literals as well. -/
theorem Form.not_mem_failingKeys_of_between {form : Form} (hform : form.Reachable) {field : Field}
    (hfield : field ∈ form.fields) (hvalue : field.value = .scalar value)
    (hrules : field.constraint = .rules ("type:number|min:" ++ lo ++ "|max:" ++ hi))
    (hv : Numeral.Denotes value.toList v) (hlo : Numeral.Denotes lo.toList a)
    (hhi : Numeral.Denotes hi.toList b) (hav : a ≤ v) (hvb : v ≤ b) :
    field.key ∉ form.failingKeys := by
  have haccepts := Rules.accepts_of_between hv hlo hhi hav hvb
  rw [← ofPairs_rangePairs] at hrules
  have hpasses : field.passes = true := by
    simp only [Field.passes, hrules, hvalue, Constraint.permits, haccepts, Bool.or_true]
  rw [hform.mem_failingKeys hfield, hpasses]
  exact Bool.noConfusion

/-- A number that rounds to zero, below a bound that does and above one that does not. -/
theorem Form.not_mem_failingKeys_of_between_tiny :
    let field : Field := ⟨"size", .scalar "1e-400",
      .rules ("type:number|min:" ++ "-25e-325" ++ "|max:" ++ "2e-400"), ""⟩
    Numeral.Denotes "1e-400".toList (1 * ((1 : ℕ) / 10 ^ 400)) ∧
      Numeral.Denotes "-25e-325".toList (-1 * ((25 : ℕ) / 10 ^ 325)) ∧
      Numeral.Denotes "2e-400".toList (1 * ((2 : ℕ) / 10 ^ 400)) ∧
      field.key ∉ (Form.ofFields [field]).failingKeys := by
  intro field
  have hv : Numeral.Denotes "1e-400".toList (1 * ((1 : ℕ) / 10 ^ 400)) :=
    Numeral.denotes_small .none 1 400
  have hlo : Numeral.Denotes "-25e-325".toList (-1 * ((25 : ℕ) / 10 ^ 325)) :=
    Numeral.denotes_small .minus 25 325
  have hhi : Numeral.Denotes "2e-400".toList (1 * ((2 : ℕ) / 10 ^ 400)) :=
    Numeral.denotes_small .none 2 400
  have hten (e : ℕ) : (0 : ℚ) < 10 ^ e := pow_pos (by norm_num) e
  have hav : (-1 * ((25 : ℕ) / 10 ^ 325) : ℚ) ≤ 1 * ((1 : ℕ) / 10 ^ 400) := by
    have hlow : (0 : ℚ) < (25 : ℕ) / 10 ^ 325 := div_pos (by norm_num) (hten 325)
    have hhigh : (0 : ℚ) < (1 : ℕ) / 10 ^ 400 := div_pos (by norm_num) (hten 400)
    rw [neg_one_mul, one_mul]
    exact le_trans (neg_nonpos.2 hlow.le) hhigh.le
  have hvb : (1 * ((1 : ℕ) / 10 ^ 400) : ℚ) ≤ 1 * ((2 : ℕ) / 10 ^ 400) := by
    rw [one_mul, one_mul]
    exact div_le_div_of_nonneg_right (Nat.cast_le.2 (by decide)) (le_of_lt (hten 400))
  have hfield : (Form.ofFields [field]).Reachable := Form.reachable_ofFields [field]
  exact ⟨hv, hlo, hhi, Form.not_mem_failingKeys_of_between hfield List.mem_cons_self rfl rfl hv hlo
    hhi hav hvb⟩

end FormRules
