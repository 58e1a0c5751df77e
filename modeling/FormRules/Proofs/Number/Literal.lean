import FormRules.Number.Numeral
import FormRules.Proofs.Number.Decimal
import FormRules.Proofs.Pattern.Language
import FormRules.Proofs.Pattern.Positions
import FormRules.Proofs.Text.Blank
import Mathlib.Algebra.Order.Field.Rat
import Mathlib.Tactic.FieldSimp
import Mathlib.Tactic.Ring

/-!
# Decimal literals

A decimal literal is written as a sign, digits with a point, and an exponent, and it denotes a
rational number.  The texts of the literals are those of the grammar, and `Decimal.read?` gives the
number that a literal denotes.
-/

namespace FormRules

open FormRules.Text FormRules.Pattern

namespace Numeral

/-! ### Parts of a literal -/

def AllDigits (s : List Char) : Prop := ∀ c ∈ s, c.isDigit = true

/-- How a sign is written, if it is. -/
inductive Sign where
  | none
  | plus
  | minus

namespace Sign

def text : Sign → List Char
  | none => []
  | plus => ['+']
  | minus => ['-']

def isMinus : Sign → Bool
  | none => false
  | plus => false
  | minus => true

end Sign

/-- Digits with a point among them or around them, if there is one. -/
structure Mantissa where
  whole : List Char
  fraction : Option (List Char)
  allDigits_whole : AllDigits whole
  allDigits_fraction : AllDigits (fraction.getD [])
  hasDigit : whole ≠ [] ∨ fraction.getD [] ≠ []

namespace Mantissa

def pointText : Option (List Char) → List Char
  | none => []
  | some digits => '.' :: digits

def text (m : Mantissa) : List Char := m.whole ++ pointText m.fraction

/-- The digits behind the point. -/
def decimals (m : Mantissa) : List Char := m.fraction.getD []

def value (m : Mantissa) : ℚ :=
  Nat.ofDigitChars 10 m.whole 0 + Nat.ofDigitChars 10 m.decimals 0 / 10 ^ m.decimals.length

end Mantissa

/-- A letter with a sign and digits. -/
structure Exponent where
  letter : Char
  sign : Sign
  digits : List Char
  isLetter : letter = 'e' ∨ letter = 'E'
  allDigits : AllDigits digits
  ne_nil : digits ≠ []

namespace Exponent

def text (e : Exponent) : List Char := e.letter :: (e.sign.text ++ e.digits)

def value (e : Exponent) : ℤ :=
  if e.sign.isMinus then -Nat.ofDigitChars 10 e.digits 0 else Nat.ofDigitChars 10 e.digits 0

end Exponent

/-- A decimal literal as it is written. -/
structure Literal where
  sign : Sign
  mantissa : Mantissa
  exponent : Option Exponent

namespace Literal

def exponentText : Option Exponent → List Char
  | none => []
  | some e => e.text

def exponentValue : Option Exponent → ℤ
  | none => 0
  | some e => e.value

def text (l : Literal) : List Char := l.sign.text ++ (l.mantissa.text ++ exponentText l.exponent)

/-- The number that the literal denotes. -/
def value (l : Literal) : ℚ :=
  (if l.sign.isMinus then -1 else 1) * l.mantissa.value * 10 ^ exponentValue l.exponent

end Literal

/-! ### The grammar -/

theorem matchesWhole_sign {s : List Char} :
    sign.MatchesWhole s ↔ ∃ written : Sign, written.text = s := by
  rw [sign, Regex.matchesWhole_optional rfl, Regex.matchesWhole_chars]
  simp only [CharSet.mem_ofList, List.mem_cons, List.not_mem_nil, or_false]
  constructor
  · intro h
    obtain hs | ⟨c, hs, hc | hc⟩ := h
    · exact ⟨.none, hs.symm⟩
    · exact ⟨.plus, by rw [hs, hc, Sign.text]⟩
    · exact ⟨.minus, by rw [hs, hc, Sign.text]⟩
  · intro h
    obtain ⟨written, hs⟩ := h
    rw [← hs]
    cases written with
    | none => exact Or.inl rfl
    | plus => exact Or.inr ⟨'+', rfl, Or.inl rfl⟩
    | minus => exact Or.inr ⟨'-', rfl, Or.inr rfl⟩

theorem matchesWhole_digits {s : List Char} :
    (Regex.plus digit).MatchesWhole s ↔ s ≠ [] ∧ AllDigits s := Regex.matchesWhole_plus_chars

theorem matchesWhole_maybeDigits {s : List Char} :
    (Regex.star digit).MatchesWhole s ↔ AllDigits s := Regex.matchesWhole_star_chars

theorem matchesWhole_mantissa {s : List Char} :
    (Regex.alt (.seq (.plus digit) (.optional (.seq (.char '.') (.star digit))))
      (.seq (.char '.') (.plus digit))).MatchesWhole s ↔ ∃ m : Mantissa, m.text = s := by
  simp (disch := decide) only [Regex.matchesWhole_alt, Regex.matchesWhole_seq,
    Regex.matchesWhole_optional, Regex.matchesWhole_char, matchesWhole_digits,
    matchesWhole_maybeDigits]
  constructor
  · intro h
    obtain ⟨whole, rest, hs, ⟨hne, hwhole⟩, hrest | ⟨point, digits, hrest, hpoint, hdigits⟩⟩ |
      ⟨point, digits, hs, hpoint, hne, hdigits⟩ := h
    · refine ⟨⟨whole, none, hwhole, List.forall_mem_nil _, Or.inl hne⟩, ?_⟩
      rw [hs, hrest]
      rfl
    · refine ⟨⟨whole, some digits, hwhole, hdigits, Or.inl hne⟩, ?_⟩
      rw [hs, hrest, hpoint]
      rfl
    · refine ⟨⟨[], some digits, List.forall_mem_nil _, hdigits, Or.inr hne⟩, ?_⟩
      rw [hs, hpoint]
      rfl
  · intro h
    obtain ⟨⟨whole, fraction, hwhole, hfraction, hdigit⟩, hs⟩ := h
    rw [← hs]
    by_cases hne : whole = []
    · subst hne
      cases fraction with
      | none => exact absurd rfl (hdigit.resolve_left (absurd rfl))
      | some digits =>
        have hdigits := hdigit.resolve_left (absurd rfl)
        exact Or.inr ⟨['.'], digits, rfl, rfl, hdigits, hfraction⟩
    · refine Or.inl ⟨whole, Mantissa.pointText fraction, rfl, ⟨hne, hwhole⟩, ?_⟩
      cases fraction with
      | none => exact Or.inl rfl
      | some digits =>
        exact Or.inr ⟨['.'], digits, rfl, rfl, hfraction⟩

theorem matchesWhole_exponent {s : List Char} :
    (Regex.optional (.seqs [.chars (.ofList ['e', 'E']), sign, .plus digit])).MatchesWhole s ↔
      ∃ e : Option Exponent, Literal.exponentText e = s := by
  rw [Regex.matchesWhole_optional rfl]
  simp (disch := decide) only [Regex.seqs, Regex.matchesWhole_seq, Regex.matchesWhole_chars,
    matchesWhole_sign, matchesWhole_digits, CharSet.mem_ofList, List.mem_cons, List.not_mem_nil,
    or_false]
  constructor
  · intro h
    obtain hs | ⟨first, rest, hs, ⟨letter, hfirst, hletter⟩, signText, digits, hrest,
      ⟨written, hsign⟩, hne, hdigits⟩ := h
    · exact ⟨none, hs.symm⟩
    · refine ⟨some ⟨letter, written, digits, hletter, hdigits, hne⟩, ?_⟩
      rw [hs, hfirst, hrest, ← hsign]
      rfl
  · intro h
    obtain ⟨_ | e, hs⟩ := h
    · exact Or.inl hs.symm
    · refine Or.inr ⟨[e.letter], e.sign.text ++ e.digits, hs.symm, ⟨e.letter, rfl, e.isLetter⟩,
        e.sign.text, e.digits, rfl, ⟨e.sign, rfl⟩, e.ne_nil, e.allDigits⟩

/-- The grammar has the texts of the decimal literals. -/
theorem matchesWhole_grammar {s : List Char} :
    grammar.MatchesWhole s ↔ ∃ l : Literal, l.text = s := by
  have hexponent := @matchesWhole_exponent
  simp only [Regex.seqs] at hexponent
  simp (disch := decide) only [grammar, Regex.seqs, Regex.matchesWhole_seq, matchesWhole_sign,
    matchesWhole_mantissa, hexponent]
  constructor
  · intro h
    obtain ⟨_, _, hs, ⟨written, rfl⟩, _, _, hrest, ⟨m, rfl⟩, e, rfl⟩ := h
    rw [hs, hrest]
    exact ⟨⟨written, m, e⟩, rfl⟩
  · intro h
    obtain ⟨l, hs⟩ := h
    exact ⟨l.sign.text, _, hs.symm, ⟨l.sign, rfl⟩, l.mantissa.text, _, rfl, ⟨l.mantissa, rfl⟩,
      l.exponent, rfl⟩

/-! ### Reading -/

theorem digitsValue_eq (n : Nat) (s : List Char) :
    Decimal.digitsValue n s = Nat.ofDigitChars 10 s n := by
  rw [Decimal.digitsValue, Nat.ofDigitChars_eq_foldl]

theorem readSign_text (written : Sign) {rest : List Char}
    (hrest : ∀ c, rest.head? = some c → c ≠ '+' ∧ c ≠ '-') :
    Decimal.readSign (written.text ++ rest) = (written.isMinus, rest) := by
  cases written with
  | plus => rfl
  | minus => rfl
  | none =>
    rw [Sign.text, List.nil_append, Sign.isMinus]
    unfold Decimal.readSign
    split
    · exact absurd rfl (hrest '+' rfl).1
    · exact absurd rfl (hrest '-' rfl).2
    · rfl

theorem readDigits_append {digits rest : List Char} (hdigits : AllDigits digits)
    (hrest : ∀ c, rest.head? = some c → c.isDigit = false) :
    Decimal.readDigits (digits ++ rest) = (digits, rest) := by
  obtain ⟨htake, hdrop⟩ := run_append hdigits hrest
  rw [Decimal.readDigits, htake, hdrop]

theorem readFraction_pointText {fraction : Option (List Char)} {rest : List Char}
    (hdigits : AllDigits (fraction.getD []))
    (hrest : ∀ c, rest.head? = some c → c.isDigit = false ∧ c ≠ '.') :
    Decimal.readFraction (Mantissa.pointText fraction ++ rest) = (fraction.getD [], rest) := by
  cases fraction with
  | some digits => exact readDigits_append hdigits fun c hc => (hrest c hc).1
  | none =>
    rw [Mantissa.pointText, List.nil_append]
    unfold Decimal.readFraction
    split
    · exact absurd rfl (hrest '.' rfl).2
    · rfl

/-- Digits do not start with a sign. -/
theorem head_allDigits {digits : List Char} (h : AllDigits digits) :
    ∀ c, digits.head? = some c → c ≠ '+' ∧ c ≠ '-' := by
  intro c hc
  have hdigit : c.isDigit = true := h c (List.mem_of_head? hc)
  constructor
  · intro heq
    rw [heq] at hdigit
    exact Bool.false_ne_true hdigit
  · intro heq
    rw [heq] at hdigit
    exact Bool.false_ne_true hdigit

theorem readExponent?_text (exponent : Option Exponent) :
    Decimal.readExponent? (Literal.exponentText exponent) =
      some (Literal.exponentValue exponent) := by
  cases exponent with
  | none => rfl
  | some e =>
    obtain ⟨letter, written, digits, hletter, hdigits, hne⟩ := e
    have hsign := readSign_text written (head_allDigits hdigits)
    have hread : Decimal.readDigits digits = (digits, []) := by
      have happend := readDigits_append hdigits (fun c hc => nomatch (hc : [].head? = some c))
      rwa [List.append_nil] at happend
    simp only [Literal.exponentText, Exponent.text, Decimal.readExponent?, if_pos hletter, hsign,
      hread, digitsValue_eq]
    cases digits with
    | nil => exact absurd rfl hne
    | cons d digits => rfl

/-- What follows the digits of a literal is neither a digit nor a point. -/
theorem head_exponentText (exponent : Option Exponent) :
    ∀ c, (Literal.exponentText exponent).head? = some c → c.isDigit = false ∧ c ≠ '.' := by
  intro c hc
  cases exponent with
  | none => exact nomatch hc
  | some e =>
    have heq : e.letter = c := Option.some.inj hc
    rw [← heq]
    cases e.isLetter with
    | inl h => simp [h]
    | inr h => simp [h]

theorem head_pointText (fraction : Option (List Char)) (exponent : Option Exponent) :
    ∀ c, (Mantissa.pointText fraction ++ Literal.exponentText exponent).head? = some c →
      c.isDigit = false := by
  intro c hc
  cases fraction with
  | none => exact (head_exponentText exponent c hc).1
  | some digits =>
    have heq : '.' = c := Option.some.inj hc
    rw [← heq]
    rfl

theorem Mantissa.head_text (m : Mantissa) (rest : List Char) :
    ∀ c, (m.text ++ rest).head? = some c → c ≠ '+' ∧ c ≠ '-' := by
  obtain ⟨whole, fraction, hwhole, -, hdigit⟩ := m
  intro c hc
  cases whole with
  | cons d whole => exact head_allDigits hwhole c hc
  | nil =>
    cases fraction with
    | none => exact absurd rfl (hdigit.resolve_left (absurd rfl))
    | some digits =>
      have heq : '.' = c := Option.some.inj hc
      rw [← heq]
      decide

/-- The text of a literal is read as the digits and the exponent that it is written with. -/
theorem Literal.read?_text (l : Literal) :
    Decimal.read? l.text = some ⟨l.sign.isMinus,
      Nat.ofDigitChars 10 (l.mantissa.whole ++ l.mantissa.decimals) 0,
      exponentValue l.exponent - l.mantissa.decimals.length⟩ := by
  have hsign := readSign_text l.sign (l.mantissa.head_text (exponentText l.exponent))
  have hwhole := readDigits_append l.mantissa.allDigits_whole
    (head_pointText l.mantissa.fraction l.exponent)
  have hfraction := readFraction_pointText l.mantissa.allDigits_fraction
    (head_exponentText l.exponent)
  have hdigit : (l.mantissa.whole.isEmpty && l.mantissa.decimals.isEmpty) = false := by
    simpa [Mantissa.decimals, imp_iff_not_or] using l.mantissa.hasDigit
  rw [Mantissa.text, List.append_assoc] at hsign
  simp only [Mantissa.decimals] at hdigit
  simp only [Decimal.read?, Literal.text, Mantissa.text, List.append_assoc, hsign, hwhole,
    hfraction, hdigit, readExponent?_text, digitsValue_eq, Bool.false_eq_true, if_false]
  rfl

/-! ### The number of a literal -/

theorem ofDigitChars_append_zero (s t : List Char) :
    (Nat.ofDigitChars 10 (s ++ t) 0 : ℚ) =
      (Nat.ofDigitChars 10 s 0 + Nat.ofDigitChars 10 t 0 / 10 ^ t.length) * 10 ^ t.length := by
  have hpower : (10 : ℚ) ^ t.length ≠ 0 := pow_ne_zero _ (by norm_num)
  rw [Nat.ofDigitChars_append, Nat.ofDigitChars_eq_ofDigitChars_zero]
  push_cast
  field_simp

theorem Mantissa.ofDigitChars_append (m : Mantissa) :
    (Nat.ofDigitChars 10 (m.whole ++ m.decimals) 0 : ℚ) =
      m.value * 10 ^ m.decimals.length := ofDigitChars_append_zero m.whole m.decimals

theorem Literal.exists_read? (l : Literal) :
    ∃ d, Decimal.read? l.text = some d ∧ d.value = l.value := by
  refine ⟨_, l.read?_text, ?_⟩
  have hten : (10 : ℚ) ≠ 0 := by norm_num
  have hpower : (10 : ℚ) ^ l.mantissa.decimals.length ≠ 0 := pow_ne_zero _ hten
  simp only [Decimal.value, Literal.value, Mantissa.ofDigitChars_append, zpow_sub₀ hten,
    zpow_natCast]
  field_simp

/-! ### Values that are literals -/

theorem matchesWhole_iff_literal (s : List Char) :
    grammar.matchesWhole s = true ↔ ∃ l : Literal, l.text = s := by
  rw [Regex.matchesWhole_iff, matchesWhole_grammar]

/-- What the grammar lets through is read, and as a decimal. -/
theorem exists_read? {s : List Char} (h : grammar.matchesWhole s = true) :
    ∃ d, Decimal.read? s = some d ∧ Binary64.read? s = some d.toBinary64 := by
  obtain ⟨l, hs⟩ := (matchesWhole_iff_literal s).1 h
  obtain ⟨d, hread, -⟩ := l.exists_read?
  rw [hs] at hread
  exact ⟨d, hread, Binary64.read?_of_decimal hread⟩

/-- The text is a decimal literal of the number. -/
def Denotes (s : List Char) (q : ℚ) : Prop := ∃ l : Literal, l.text = s ∧ l.value = q

theorem Denotes.exists_numberOf? {value : String} {q : ℚ} (h : Denotes (trim value.toList) q) :
    ∃ d : Decimal, d.value = q ∧ numberOf? value = some d.toBinary64 := by
  obtain ⟨l, htext, hvalue⟩ := h
  have hmatches : grammar.matchesWhole l.text = true := (matchesWhole_iff_literal _).2 ⟨l, rfl⟩
  obtain ⟨d, hread, hd⟩ := l.exists_read?
  refine ⟨d, hd.trans hvalue, ?_⟩
  simp only [numberOf?, ← htext, hmatches, if_true, Binary64.read?_of_decimal hread]

/-- A literal without a point and an exponent. -/
def Literal.ofNat (sign : Sign) (n : ℕ) : Literal where
  sign := sign
  mantissa :=
    { whole := Nat.toDigits 10 n
      fraction := none
      allDigits_whole := fun _ hc => Nat.isDigit_of_mem_toDigits (by decide) (by decide) hc
      allDigits_fraction := List.forall_mem_nil _
      hasDigit := Or.inl Nat.toDigits_ne_nil }
  exponent := none

theorem Literal.text_ofNat (sign : Sign) (n : ℕ) :
    (ofNat sign n).text = sign.text ++ n.repr.toList := by
  simp [ofNat, text, Mantissa.text, Mantissa.pointText, exponentText]

theorem Literal.value_mantissa_ofNat (sign : Sign) (n : ℕ) :
    (ofNat sign n).mantissa.value = n := by
  simp [ofNat, Mantissa.value, Mantissa.decimals]

theorem Literal.value_ofNat (sign : Sign) (n : ℕ) :
    (ofNat sign n).value = (if sign.isMinus then -1 else 1) * n := by
  rw [value, value_mantissa_ofNat, ofNat, exponentValue, zpow_zero, mul_one]

/-- A whole number in decimal digits is a literal of itself. -/
theorem denotes_toString (n : ℤ) : Denotes (toString n).toList n := by
  rw [Int.toString_eq_repr, Int.repr_eq_if]
  by_cases hn : 0 ≤ n
  · have hcast : (n.toNat : ℚ) = n := by exact_mod_cast Int.toNat_of_nonneg hn
    refine ⟨.ofNat .none n.toNat, ?_, ?_⟩
    · rw [Literal.text_ofNat, if_pos hn]
      rfl
    · rw [Literal.value_ofNat, hcast]
      simp [Sign.isMinus]
  · have hneg : ((-n).toNat : ℤ) = -n := Int.toNat_of_nonneg (by omega)
    have hcast : ((-n).toNat : ℚ) = -n := by exact_mod_cast hneg
    refine ⟨.ofNat .minus (-n).toNat, ?_, ?_⟩
    · rw [Literal.text_ofNat, if_neg hn, String.toList_append]
      rfl
    · rw [Literal.value_ofNat, hcast]
      simp [Sign.isMinus]

theorem Literal.mem_text (l : Literal) {c : Char} (hc : c ∈ l.text) :
    c.isDigit = true ∨ c ∈ ['+', '-', '.', 'e', 'E'] := by
  have hsign (sign : Sign) (hc : c ∈ sign.text) : c ∈ ['+', '-', '.', 'e', 'E'] := by
    cases sign <;> simp_all [Sign.text]
  simp only [text, Mantissa.text, List.mem_append] at hc
  obtain hc | (hc | hc) | hc := hc
  · exact Or.inr (hsign l.sign hc)
  · exact Or.inl (l.mantissa.allDigits_whole c hc)
  · have hfraction := l.mantissa.allDigits_fraction
    cases h : l.mantissa.fraction with
    | none => simp [h, Mantissa.pointText] at hc
    | some digits =>
      rw [h, Mantissa.pointText, List.mem_cons] at hc
      cases hc with
      | inl hpoint => simp [hpoint]
      | inr hdigit => exact Or.inl (hfraction c (by rwa [h]))
  · cases h : l.exponent with
    | none => simp [h, exponentText] at hc
    | some e =>
      rw [h, exponentText, Exponent.text, List.mem_cons, List.mem_append] at hc
      obtain hletter | hc | hdigit := hc
      · have hcases := e.isLetter
        rw [← hletter] at hcases
        cases hcases <;> simp_all
      · exact Or.inr (hsign e.sign hc)
      · exact Or.inl (e.allDigits c hdigit)

end Numeral

end FormRules
