import FormRules.Date.Reading
import FormRules.Date.Writing
import FormRules.Proofs.Number.Literal
import Mathlib.Data.List.Induction

/-!
# Numbers of a fixed width

A date shows its numbers with zeros in front up to a width.  Digits of a width are determined by the
number they denote, and they are read back as that number, whatever stands behind them.
-/

namespace FormRules.Date

open FormRules.Numeral FormRules.Text

instance : DecidablePred AllDigits := fun s => List.decidableBAll _ s

/-- A text of as many decimal digits as a width says. -/
structure Digits (width : Nat) where
  chars : List Char
  length_eq : chars.length = width
  allDigits : AllDigits chars

namespace Digits

variable {width : Nat}

def value (digits : Digits width) : Nat := Nat.ofDigitChars 10 digits.chars 0

end Digits

/-! ### Digits and what they denote -/

theorem ofDigitChars_concat (s : List Char) (c : Char) :
    Nat.ofDigitChars 10 (s ++ [c]) 0 = 10 * Nat.ofDigitChars 10 s 0 + (c.toNat - '0'.toNat) := by
  rw [Nat.ofDigitChars_append, Nat.ofDigitChars_cons, Nat.ofDigitChars_nil]

theorem allDigits_concat {s : List Char} {c : Char} :
    AllDigits (s ++ [c]) ↔ AllDigits s ∧ '0'.toNat ≤ c.toNat ∧ c.toNat ≤ '9'.toNat := by
  rw [AllDigits, List.forall_mem_append, List.forall_mem_singleton, Char.isDigit_iff_toNat]
  rfl

theorem ofDigitChars_lt {s : List Char} (h : AllDigits s) :
    Nat.ofDigitChars 10 s 0 < 10 ^ s.length := by
  induction s using List.reverseRecOn with
  | nil => decide
  | append_singleton s c ih =>
    obtain ⟨hs, hc⟩ := allDigits_concat.1 h
    have hrest := ih hs
    have hzero : '0'.toNat = 48 := rfl
    have hnine : '9'.toNat = 57 := rfl
    rw [ofDigitChars_concat, List.length_append, List.length_singleton, pow_succ]
    omega

/-- Digits of one width that denote the same number are the same. -/
theorem eq_of_ofDigitChars_eq {s t : List Char} (hs : AllDigits s) (ht : AllDigits t)
    (hlength : s.length = t.length)
    (hvalue : Nat.ofDigitChars 10 s 0 = Nat.ofDigitChars 10 t 0) : s = t := by
  -- from the last digit, which is what the number leaves on division by ten
  induction s using List.reverseRecOn generalizing t with
  | nil => exact (List.eq_nil_of_length_eq_zero hlength.symm).symm
  | append_singleton s c ih =>
    have hne : t ≠ [] := by
      intro hnil
      rw [hnil, List.length_append, List.length_singleton] at hlength
      exact Nat.succ_ne_zero _ hlength
    obtain ⟨t, d, rfl⟩ := (List.eq_nil_or_concat' t).resolve_left hne
    obtain ⟨hs, hc⟩ := allDigits_concat.1 hs
    obtain ⟨ht, hd⟩ := allDigits_concat.1 ht
    rw [ofDigitChars_concat, ofDigitChars_concat] at hvalue
    rw [List.length_append, List.length_append, List.length_singleton, List.length_singleton]
      at hlength
    have hzero : '0'.toNat = 48 := rfl
    have hnine : '9'.toNat = 57 := rfl
    have hchar : c = d := Char.toNat_inj.1 (by omega)
    rw [ih hs ht (by omega) (by omega), hchar]

/-! ### Padded numbers -/

theorem allDigits_padded (width n : Nat) : AllDigits (Writing.padded width n) := by
  intro c hc
  rw [Writing.padded, List.mem_append] at hc
  cases hc with
  | inl hzero =>
    rw [List.eq_of_mem_replicate hzero]
    rfl
  | inr hdigit => exact Nat.isDigit_of_mem_toDigits (by decide) (by decide) hdigit

theorem ofDigitChars_padded (width n : Nat) :
    Nat.ofDigitChars 10 (Writing.padded width n) 0 = n := by
  rw [Writing.padded, Nat.ofDigitChars_append, Nat.ofDigitChars_replicate_zero, Nat.mul_zero,
    Writing.decimal, Nat.ofDigitChars_ten_toDigits]

theorem length_padded {width n : Nat} (hwidth : 0 < width) (hn : n < 10 ^ width) :
    (Writing.padded width n).length = width := by
  have hle : (Nat.toDigits 10 n).length ≤ width :=
    (Nat.length_toDigits_le_iff (by decide) hwidth).2 hn
  rw [Writing.padded, Writing.decimal, List.length_append, List.length_replicate]
  omega

namespace Digits

variable {width : Nat}

def ofNat (width n : Nat) (hwidth : 0 < width) (hn : n < 10 ^ width) : Digits width where
  chars := Writing.padded width n
  length_eq := length_padded hwidth hn
  allDigits := allDigits_padded width n

theorem value_lt (digits : Digits width) : digits.value < 10 ^ width := by
  have h := ofDigitChars_lt digits.allDigits
  rwa [digits.length_eq] at h

theorem eq_padded (digits : Digits width) (hwidth : 0 < width) :
    digits.chars = Writing.padded width digits.value := by
  apply eq_of_ofDigitChars_eq digits.allDigits (allDigits_padded width digits.value)
  · rw [digits.length_eq, length_padded hwidth digits.value_lt]
  · exact (ofDigitChars_padded width digits.value).symm

theorem ne_nil (digits : Digits width) (hwidth : 0 < width) : digits.chars ≠ [] := by
  intro hnil
  have hlength := digits.length_eq
  rw [hnil, List.length_nil] at hlength
  omega

theorem startsSolid (digits : Digits width) : StartsSolid digits.chars :=
  fun c hc => isBlank_of_isDigit (digits.allDigits c (List.mem_of_head? hc))

theorem endsSolid (digits : Digits width) : EndsSolid digits.chars :=
  fun c hc => isBlank_of_isDigit (digits.allDigits c (List.mem_of_getLast? hc))

/-! ### Reading -/

theorem trimStart_append (digits : Digits width) (hwidth : 0 < width) (rest : List Char) :
    trimStart (digits.chars ++ rest) = digits.chars ++ rest :=
  trimStart_of_solid (digits.startsSolid.append (digits.ne_nil hwidth) rest)

theorem number?_append (digits : Digits width) (hwidth : 0 < width)
    (hvalue : digits.value < 0x8000000000000000) (rest : List Char) :
    Reading.number? (some width) (digits.chars ++ rest) = some ((digits.value : Int), rest) := by
  have htake : (digits.chars ++ rest).take width = digits.chars :=
    List.take_left' digits.length_eq
  have hall : digits.chars.takeWhile Char.isDigit = digits.chars :=
    List.takeWhile_eq_self_iff.2 digits.allDigits
  have hnonempty : digits.chars.isEmpty = false :=
    List.isEmpty_eq_false_iff.2 (digits.ne_nil hwidth)
  have hread : Decimal.digitsValue 0 digits.chars = digits.value := digitsValue_eq 0 digits.chars
  simp only [Reading.number?, htake, hall, hnonempty, Bool.false_eq_true, if_false, hread,
    if_pos hvalue, List.drop_left]

/-- Digits do not start with a sign. -/
theorem signedNumber?_append (digits : Digits width) (hwidth : 0 < width) (rest : List Char) :
    Reading.signedNumber? width (digits.chars ++ rest) =
      Reading.number? (some width) (digits.chars ++ rest) := by
  have hsign : ∀ c, (digits.chars ++ rest).head? = some c → c ≠ '+' ∧ c ≠ '-' := by
    intro c hc
    rw [List.head?_append_of_ne_nil _ (digits.ne_nil hwidth)] at hc
    exact head_allDigits digits.allDigits c hc
  unfold Reading.signedNumber?
  split
  next heq => exact absurd rfl (hsign '-' (by rw [heq]; rfl)).2
  next heq => exact absurd rfl (hsign '+' (by rw [heq]; rfl)).1
  next => rfl

end Digits

theorem Reading.number?_run {chars rest : List Char} (hchars : AllDigits chars) (hne : chars ≠ [])
    (hvalue : Nat.ofDigitChars 10 chars 0 < 0x8000000000000000)
    (hrest : ∀ c, rest.head? = some c → c.isDigit = false) :
    number? none (chars ++ rest) = some ((Nat.ofDigitChars 10 chars 0 : Int), rest) := by
  have hrun : (chars ++ rest).takeWhile Char.isDigit = chars := (run_append hchars hrest).1
  have hnonempty : chars.isEmpty = false := List.isEmpty_eq_false_iff.2 hne
  simp only [number?, hrun, hnonempty, Bool.false_eq_true, if_false,
    digitsValue_eq 0 chars, if_pos hvalue, List.drop_left]

end FormRules.Date
