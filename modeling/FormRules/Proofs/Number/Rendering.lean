import FormRules.Number.Rendering
import FormRules.Proofs.Number.Literal
import FormRules.Proofs.Number.Shortest

/-!
# Written numbers are literals

With a point among the digits, with a point behind the first of them and an exponent, or with no
point at all: a finite number is written as a decimal literal of its sign and its shortest decimal.
-/

namespace FormRules

open FormRules.Numeral

namespace Binary64

variable {d : Digits} {x : Binary64}

/-! ### Digits -/

theorem eq_dropTrailingZeros_append (s : List Char) :
    ∃ k, s = dropTrailingZeros s ++ List.replicate k '0' := by
  have hzeros : s.reverse.takeWhile (· == '0') =
      List.replicate (s.reverse.takeWhile (· == '0')).length '0' := by
    apply List.eq_replicate_of_mem
    intro c hc
    exact beq_iff_eq.1 (List.all_eq_true.1 List.all_takeWhile c hc)
  have hsplit := List.takeWhile_append_dropWhile (p := (· == '0')) (l := s.reverse)
  refine ⟨(s.reverse.takeWhile (· == '0')).length, ?_⟩
  rw [dropTrailingZeros, ← List.reverse_inj, List.reverse_append, List.reverse_reverse,
    List.reverse_replicate, ← hzeros, hsplit]

structure Digits.IsProper (d : Digits) : Prop where
  allDigits : AllDigits d.digits
  ne_nil : d.digits ≠ []

/-- The number that digits stand for. -/
def Digits.value (d : Digits) : ℚ :=
  Nat.ofDigitChars 10 d.digits 0 * 10 ^ (d.leading + 1 - d.digits.length)

theorem value_digitsOf (code : ℕ) (tie : Tie) :
    (digitsOf code tie).value =
      pointOf (shortestDigits code tie).digits (shortestDigits code tie).exponent := by
  simp only [digitsOf]
  generalize shortestDigits code tie = short
  obtain ⟨k, hk⟩ := eq_dropTrailingZeros_append (Nat.toDigits 10 short.digits)
  have hvalue : short.digits =
      10 ^ k * Nat.ofDigitChars 10 (dropTrailingZeros (Nat.toDigits 10 short.digits)) 0 := by
    rw [← Nat.ofDigitChars_replicate_zero, ← Nat.ofDigitChars_append, ← hk,
      Nat.ofDigitChars_toDigits (by decide) (by decide)]
  have hlength := congrArg List.length hk
  rw [List.length_append, List.length_replicate] at hlength
  generalize dropTrailingZeros (Nat.toDigits 10 short.digits) = digits at *
  have hexponent : short.exponent + (Nat.toDigits 10 short.digits).length - 1 + 1 - digits.length =
      (k : ℤ) + short.exponent := by omega
  rw [Digits.value, hexponent, pointOf, hvalue, zpow_add₀ (by norm_num), zpow_natCast]
  push_cast
  ring

theorem digitsOf_isProper {code : ℕ} {tie : Tie} (h : 0 < (shortestDigits code tie).digits) :
    (digitsOf code tie).IsProper := by
  obtain ⟨k, hk⟩ := eq_dropTrailingZeros_append (Nat.toDigits 10 (shortestDigits code tie).digits)
  constructor
  · intro c hc
    refine Nat.isDigit_of_mem_toDigits (b := 10) (n := (shortestDigits code tie).digits)
      (by decide) (by decide) ?_
    rw [hk]
    exact List.mem_append_left _ hc
  · intro hnil
    have hzeros : Nat.toDigits 10 (shortestDigits code tie).digits = List.replicate k '0' := by
      rw [hk]
      exact congrArg (· ++ _) hnil
    have hvalue := Nat.ofDigitChars_toDigits (b := 10) (n := (shortestDigits code tie).digits)
      (by decide) (by decide)
    rw [hzeros, Nat.ofDigitChars_replicate_zero, Nat.mul_zero] at hvalue
    omega

/-! ### Digits with a point -/

theorem Digits.IsProper.positional (h : d.IsProper) :
    AllDigits d.positional.1 ∧ d.positional.1 ≠ [] ∧ AllDigits d.positional.2 := by
  have hzeros (n : ℕ) : AllDigits (List.replicate n '0') := by
    intro c hc
    rw [List.eq_of_mem_replicate hc]
    rfl
  have happend {s t : List Char} (hs : AllDigits s) (ht : AllDigits t) : AllDigits (s ++ t) := by
    intro c hc
    exact (List.mem_append.1 hc).elim (hs c) (ht c)
  rw [Digits.positional]
  split
  · exact ⟨hzeros 1, List.cons_ne_nil _ _, happend (hzeros _) h.allDigits⟩
  · refine ⟨happend (fun c hc => h.allDigits c (List.mem_of_mem_take hc)) (hzeros _), ?_,
      fun c hc => h.allDigits c (List.mem_of_mem_drop hc)⟩
    have hne := h.ne_nil
    intro hnil
    obtain ⟨htake, -⟩ := List.append_eq_nil_iff.1 hnil
    simp [hne] at htake

/-- The number that digits behind a point stand for. -/
def fractionValue (s : List Char) : ℚ := Nat.ofDigitChars 10 s 0 / 10 ^ s.length

theorem value_positional (d : Digits) :
    Nat.ofDigitChars 10 d.positional.1 0 + fractionValue d.positional.2 = d.value := by
  have hten : (10 : ℚ) ≠ 0 := by norm_num
  rw [Digits.positional, Digits.value]
  split
  · -- zeros stand between the point and the digits
    rename_i hleading
    obtain ⟨k, hk⟩ : ∃ k : ℕ, d.leading = -(k : ℤ) - 1 := ⟨(-d.leading - 1).toNat, by omega⟩
    have hcount : (-d.leading - 1).toNat = k := by omega
    have hexponent : d.leading + 1 - d.digits.length = -((k + d.digits.length : ℕ) : ℤ) := by
      push_cast
      omega
    have hzero : Nat.ofDigitChars 10 ['0'] 0 = 0 := by decide
    rw [hzero, fractionValue, hcount, hexponent, Nat.ofDigitChars_append,
      Nat.ofDigitChars_replicate_zero, Nat.mul_zero, List.length_append, List.length_replicate,
      zpow_neg, zpow_natCast, Nat.cast_zero, zero_add, div_eq_mul_inv]
  · rename_i hleading
    obtain ⟨count, hcount⟩ : ∃ count : ℕ, d.leading.toNat + 1 = count := ⟨_, rfl⟩
    have hexponent : d.leading + 1 - d.digits.length = (count : ℤ) - d.digits.length := by omega
    simp only [hcount, hexponent]
    -- the digits end at the point, filled up with zeros, or go on behind it
    rcases Nat.le_total d.digits.length count with hshort | hlong
    · rw [List.take_of_length_le hshort, List.drop_of_length_le hshort, Nat.ofDigitChars_append,
        Nat.ofDigitChars_replicate_zero, ← Nat.cast_sub hshort, zpow_natCast, fractionValue]
      simp [mul_comm]
    · have hdigits := ofDigitChars_append_zero (d.digits.take count) (d.digits.drop count)
      have hpower : (10 : ℚ) ^ (d.digits.length - count) ≠ 0 := pow_ne_zero _ hten
      have hminus : (count : ℤ) - d.digits.length = -((d.digits.length - count : ℕ) : ℤ) := by omega
      rw [List.take_append_drop, List.length_drop] at hdigits
      rw [fractionValue, List.length_drop, hdigits, hminus, zpow_neg, zpow_natCast,
        List.length_take, Nat.min_eq_left hlong, Nat.sub_self, List.replicate_zero, List.append_nil]
      field_simp

/-! ### Written numbers -/

def signOf (x : Binary64) : Sign := if x.negative then .minus else .none

theorem signText_toList (x : Binary64) : x.signText.toList = (signOf x).text := by
  cases h : x.negative <;> simp [signText, signOf, h, Sign.text]

theorem isMinus_signOf (x : Binary64) : (signOf x).isMinus = x.negative := by
  cases h : x.negative <;> simp [signOf, h, Sign.isMinus]

/-- Digits with a point, behind which there may stand a zero instead of nothing, and with an
exponent. -/
theorem Digits.IsProper.denotes (h : d.IsProper) (x : Binary64) {point : Option (List Char)}
    (hpoint : point.getD [] = d.positional.2 ∨ d.positional.2 = [] ∧ point.getD [] = ['0'])
    (exponent : Option Exponent) :
    Denotes (x.signText.toList ++
        (d.positional.1 ++ Mantissa.pointText point ++ Literal.exponentText exponent))
      ((if x.negative then -1 else 1) * d.value * 10 ^ Literal.exponentValue exponent) := by
  obtain ⟨hwhole, hne, hfraction⟩ := h.positional
  have hvalue : fractionValue (point.getD []) = fractionValue d.positional.2 := by
    rcases hpoint with heq | ⟨hnil, hzero⟩
    · rw [heq]
    · have hdigit : Nat.ofDigitChars 10 ['0'] 0 = 0 := by decide
      rw [hnil, hzero, fractionValue, hdigit]
      simp [fractionValue]
  have hdigits : AllDigits (point.getD []) := by
    rcases hpoint with heq | ⟨-, hzero⟩
    · rwa [heq]
    · rw [hzero]
      simp [AllDigits]
  refine ⟨⟨signOf x, ⟨d.positional.1, point, hwhole, hdigits, Or.inl hne⟩, exponent⟩, ?_, ?_⟩
  · rw [signText_toList]
    rfl
  · rw [← value_positional, ← hvalue, ← isMinus_signOf]
    rfl

theorem denotes_plainText (hpos : 0 < x.code) (hcode : x.code < infinityCode)
    (hproper : (digitsOf x.code .up).IsProper) :
    Denotes x.plainText.toList ((if x.negative then -1 else 1) * (digitsOf x.code .up).value) := by
  have hnumber : ¬x.isNaN = true := by
    rw [isNaN, decide_eq_true_eq]
    omega
  generalize hd : digitsOf x.code .up = d at *
  have htext : x.plainText = x.signText ++ String.ofList d.positional.1 ++
      (if d.positional.2.isEmpty then "" else "." ++ String.ofList d.positional.2) := by
    rw [plainText, if_neg hnumber, if_neg hcode.ne, if_neg hpos.ne', hd]
  have hpoint : (if d.positional.2.isEmpty then none else some d.positional.2).getD [] =
      d.positional.2 := by
    cases d.positional.2 <;> rfl
  have hdenotes := hproper.denotes x (Or.inl hpoint) none
  rw [Literal.exponentValue, zpow_zero, mul_one] at hdenotes
  convert hdenotes using 1
  rw [htext]
  cases d.positional.2 <;> simp [Mantissa.pointText, Literal.exponentText]

/-! ### Exponents -/

/-- The digits with the point behind the first of them. -/
def Digits.normalized (d : Digits) : Digits := ⟨d.digits, 0⟩

theorem positional_normalized (hd : d.digits ≠ []) :
    d.normalized.positional = (d.digits.take 1, d.digits.drop 1) := by
  obtain ⟨c, digits, heq⟩ := List.exists_cons_of_ne_nil hd
  simp [Digits.positional, Digits.normalized, heq]

theorem value_normalized (d : Digits) : d.normalized.value * 10 ^ d.leading = d.value := by
  rw [Digits.value, Digits.value, Digits.normalized, mul_assoc, ← zpow_add₀ (by norm_num)]
  ring_nf

def exponentOf (e : ℤ) : Exponent where
  letter := 'e'
  sign := if e < 0 then .minus else .plus
  digits := Nat.toDigits 10 e.natAbs
  isLetter := Or.inl rfl
  allDigits := fun _ hc => Nat.isDigit_of_mem_toDigits (by decide) (by decide) hc
  ne_nil := Nat.toDigits_ne_nil

theorem value_exponentOf (e : ℤ) : (exponentOf e).value = e := by
  have hdigits : Nat.ofDigitChars 10 (exponentOf e).digits 0 = e.natAbs :=
    Nat.ofDigitChars_toDigits (by decide) (by decide)
  have hsign : (exponentOf e).sign.isMinus = decide (e < 0) := by
    by_cases he : e < 0 <;> simp [exponentOf, he, Sign.isMinus]
  rw [Exponent.value, hdigits, hsign]
  by_cases he : e < 0
  · rw [decide_eq_true he, if_pos rfl]
    omega
  · rw [decide_eq_false he, if_neg Bool.false_ne_true]
    omega

theorem text_exponentOf (e : ℤ) :
    (exponentOf e).text =
      ((if e < 0 then "e-" else "e+") ++ toString e.natAbs : String).toList := by
  rw [Exponent.text, exponentOf]
  by_cases he : e < 0
  · simp [he, Sign.text]
  · simp [he, Sign.text]

theorem denotes_documentText (hpos : 0 < x.code) (hproper : (digitsOf x.code .toEven).IsProper) :
    Denotes x.documentText.toList
      ((if x.negative then -1 else 1) * (digitsOf x.code .toEven).value) := by
  rw [documentText, if_neg hpos.ne']
  generalize digitsOf x.code .toEven = d at *
  by_cases hrange : (-5 ≤ d.leading && d.leading < 16) = true
  · simp only [if_pos hrange]
    have hpoint :
        (some (if d.positional.2.isEmpty then ['0'] else d.positional.2)).getD [] =
          d.positional.2 ∨
        d.positional.2 = [] ∧
          (some (if d.positional.2.isEmpty then ['0'] else d.positional.2)).getD [] = ['0'] := by
      cases d.positional.2 <;> simp
    have hdenotes := hproper.denotes x hpoint none
    rw [Literal.exponentValue, zpow_zero, mul_one] at hdenotes
    convert hdenotes using 1
    cases d.positional.2 <;> simp [Mantissa.pointText, Literal.exponentText]
  · simp only [if_neg hrange]
    have hnormalized : d.normalized.IsProper := ⟨hproper.allDigits, hproper.ne_nil⟩
    have hparts := positional_normalized hproper.ne_nil
    have hpoint : (if d.digits.length ≤ 1 then none else some (d.digits.drop 1)).getD [] =
        d.normalized.positional.2 := by
      rw [hparts]
      split
      · rename_i hlength
        exact (List.drop_of_length_le hlength).symm
      · rfl
    have hdenotes := hnormalized.denotes x (Or.inl hpoint) (some (exponentOf d.leading))
    rw [Literal.exponentValue, value_exponentOf, mul_assoc, value_normalized, hparts,
      Literal.exponentText, text_exponentOf] at hdenotes
    convert hdenotes using 1
    split <;> simp [Mantissa.pointText]

/-! ### What is written rounds to the number -/

theorem exists_denotes_plainText (hpos : 0 < x.code) (hcode : x.code < infinityCode) :
    ∃ q, RoundsTo q x.code ∧ Denotes x.plainText.toList ((if x.negative then -1 else 1) * q) := by
  obtain ⟨hdigits, hrounds⟩ := shortestDigits_roundsTo hpos hcode .up
  rw [← value_digitsOf] at hrounds
  exact ⟨_, hrounds, denotes_plainText hpos hcode (digitsOf_isProper hdigits)⟩

theorem exists_denotes_documentText (hpos : 0 < x.code) (hcode : x.code < infinityCode) :
    ∃ q, RoundsTo q x.code ∧
      Denotes x.documentText.toList ((if x.negative then -1 else 1) * q) := by
  obtain ⟨hdigits, hrounds⟩ := shortestDigits_roundsTo hpos hcode .toEven
  rw [← value_digitsOf] at hrounds
  exact ⟨_, hrounds, denotes_documentText hpos (digitsOf_isProper hdigits)⟩

end Binary64

end FormRules
