import FormRules.Criterion
import FormRules.Proofs.Date.Pattern
import FormRules.Proofs.Pattern.Positions
import FormRules.Proofs.Text.Blank

/-!
# Blank values

A blank text satisfies no criterion, whatever the rules say.  The rules of a type other than array
are therefore satisfied by nothing but texts with a character that is not blank.
-/

namespace FormRules

open FormRules.Text FormRules.Pattern

/-! ### Web addresses -/

namespace Url

theorem isBlank_of_hostChars {c : Char} (h : hostChars.mem c = true) : isBlank c = false := by
  simp only [hostChars, alphanumeric, CharSet.mem_union, CharSet.mem_range, Bool.or_eq_true,
    Bool.and_eq_true, decide_eq_true_eq, CharSet.mem_ofList] at h
  have hmarks : ∀ d ∈ "-@:%._+~#=".toList, '!'.toNat ≤ d.toNat ∧ d.toNat ≤ '~'.toNat := by simp
  have hrange {first last : Char} (hfirst : '!'.toNat ≤ first.toNat)
      (hlast : last.toNat ≤ '~'.toNat) (hc : first ≤ c ∧ c ≤ last) :
      '!'.toNat ≤ c.toNat ∧ c.toNat ≤ '~'.toNat :=
    ⟨Nat.le_trans hfirst hc.1, Nat.le_trans hc.2 hlast⟩
  apply isBlank_of_visible
  rcases h with (hlower | hupper | hdigit) | hmark
  · exact hrange (by decide) (by decide) hlower
  · exact hrange (by decide) (by decide) hupper
  · exact hrange (by decide) (by decide) hdigit
  · exact hmarks c hmark

/-- The host is at least two characters long. -/
theorem exists_hostChar {s : List Char} (h : grammar.MatchesWhole s) :
    ∃ c ∈ s, hostChars.mem c = true := by
  rw [Regex.matchesWhole_iff_spans] at h
  simp only [grammar, Regex.seqs, Regex.spans_seq] at h
  obtain ⟨i, -, j, -, k, hhost, -⟩ := h
  rw [Regex.spans_repeated] at hhost
  obtain ⟨hzero, -⟩ | ⟨-, m, hfirst, -⟩ := hhost
  · exact absurd hzero (by decide)
  · obtain ⟨-, c, hc, hset⟩ := Regex.spans_chars.1 hfirst
    exact ⟨c, List.mem_of_getElem? hc, hset⟩

end Url

/-! ### Blank texts -/

section Blank

variable {text : String}

theorem hasText_of_blank (h : trim text.toList = []) : hasText text = false := by
  rw [hasText, h]
  rfl

theorem numberOf?_of_blank (h : trim text.toList = []) : numberOf? text = none := by
  simp only [numberOf?, h]
  rfl

theorem isEmailAddress_of_blank (h : trim text.toList = []) : isEmailAddress text = false := by
  simp only [isEmailAddress, h, Email.splitAtLast?, Bool.and_false]

theorem isWebAddress_of_blank (h : trim text.toList = []) : isWebAddress text = false := by
  rw [Bool.eq_false_iff]
  intro haddress
  rw [isWebAddress, Regex.matchesWhole_iff] at haddress
  obtain ⟨c, hc, hhost⟩ := Url.exists_hostChar haddress
  have hblank : isBlank c = true := allBlank_of_trim_eq_nil h c hc
  rw [Url.isBlank_of_hostChars hhost] at hblank
  exact Bool.false_ne_true hblank

theorem ColorFormat.accepts_of_blank (h : trim text.toList = []) (format : ColorFormat) :
    format.accepts text = false := by
  rw [ColorFormat.accepts, h]
  cases format <;> rfl

theorem Criterion.accepts_of_blank (h : trim text.toList = []) (criterion : Criterion)
    (rules : Rules) : criterion.accepts (.scalar text) rules = false := by
  cases criterion with
  | string => simp [accepts, acceptsString, hasText_of_blank h]
  | number => simp [accepts, acceptsNumber, numberOf?_of_blank h]
  | email => exact isEmailAddress_of_blank h
  | url => exact isWebAddress_of_blank h
  | color => exact ColorFormat.accepts_of_blank h _
  | date defaultFormat => exact isDateUnder_of_blank h _
  | array => rfl

end Blank

/-! ### Values of the scalar types -/

/-- A criterion other than that of arrays is satisfied by texts only. -/
theorem Criterion.accepts_sequence {criterion : Criterion} (h : criterion ≠ .array)
    (items : List Value) (rules : Rules) :
    criterion.accepts (.sequence items) rules = false := by
  cases criterion with
  | array => exact absurd rfl h
  | _ => rfl

theorem FieldType.criterion?_eq_array {fieldType : FieldType}
    (h : fieldType.criterion? = some .array) : fieldType = .array := by
  cases fieldType with
  | array => rfl
  | _ => simp [criterion?] at h

/-- What satisfies the rules of a type other than array is a text that is not blank. -/
theorem Rules.trim_ne_nil_of_accepts {rules : Rules} (htype : rules.fieldType ≠ .array)
    {value : Value} (h : rules.accepts value = true) :
    ∃ text, value = .scalar text ∧ trim text.toList ≠ [] := by
  obtain ⟨criterion, hcriterion, hgood⟩ := (Option.any_eq_true _ _).1 h
  cases value with
  | sequence items =>
    have hne : criterion ≠ .array := by
      intro harray
      rw [harray] at hcriterion
      exact htype (FieldType.criterion?_eq_array hcriterion)
    rw [Criterion.accepts_sequence hne] at hgood
    exact absurd hgood Bool.false_ne_true
  | scalar text =>
    refine ⟨text, rfl, ?_⟩
    intro hblank
    rw [Criterion.accepts_of_blank hblank] at hgood
    exact Bool.false_ne_true hgood

/-- A time under a pattern of its own. -/
theorem Rules.trim_ne_nil_of_accepts_time :
    let rules : Rules := { fieldType := .time, format := some "H:i" }
    rules.fieldType ≠ .array ∧ rules.accepts (.scalar "08:15") = true ∧
      ∃ text, Value.scalar "08:15" = .scalar text ∧ trim text.toList ≠ [] := by
  intro rules
  have htype : rules.fieldType ≠ .array := by decide
  have hgood : rules.accepts (.scalar "08:15") = true := by decide +kernel
  exact ⟨htype, hgood, Rules.trim_ne_nil_of_accepts htype hgood⟩

end FormRules
