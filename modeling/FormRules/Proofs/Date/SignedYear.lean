import FormRules.Proofs.Date.Standard

/-!
# Years with a sign

A year of the standard pattern is written with four digits from 0 to 9999, and with its sign and as
many digits as it needs otherwise.  Reading takes the sign too, so `isDateUnder_signedYear` finds
that values with a sign are accepted beside those in the form of a date.

The table of letters of `is_date` calls `Y` a year of four digits.
-/

namespace FormRules

open FormRules.Text FormRules.Numeral FormRules.Date

namespace Date

/-! ### Digits of a year -/

/-- At least four digits, of which the first is no zero where there are more. -/
structure YearDigits where
  chars : List Char
  allDigits : AllDigits chars
  four_le : 4 ≤ chars.length
  head_ne_zero : 4 < chars.length → chars.head? ≠ some '0'

namespace YearDigits

def value (digits : YearDigits) : Nat := Nat.ofDigitChars 10 digits.chars 0

end YearDigits

theorem length_padded_four (n : Nat) :
    (Writing.padded 4 n).length = max 4 (Nat.toDigits 10 n).length := by
  rw [Writing.padded, Writing.decimal, List.length_append, List.length_replicate]
  omega

theorem pow_le_ofDigitChars {c : Char} {s : List Char} (hc : c.isDigit = true) (hzero : c ≠ '0') :
    10 ^ s.length ≤ Nat.ofDigitChars 10 (c :: s) 0 := by
  have hrange : '0'.toNat ≤ c.toNat ∧ c.toNat ≤ '9'.toNat := Char.isDigit_iff_toNat.1 hc
  have hne : c.toNat ≠ '0'.toNat := fun heq => hzero (Char.toNat_inj.1 heq)
  have hpos : 1 ≤ c.toNat - '0'.toNat := by omega
  calc 10 ^ s.length = 10 ^ s.length * 1 := (Nat.mul_one _).symm
    _ ≤ 10 ^ s.length * (c.toNat - '0'.toNat) := Nat.mul_le_mul_left _ hpos
    _ ≤ Nat.ofDigitChars 10 (c :: s) 0 := by
      rw [Nat.ofDigitChars_cons, Nat.mul_zero, Nat.zero_add, Nat.ofDigitChars_eq_ofDigitChars_zero]
      exact Nat.le_add_right _ _

namespace YearDigits

def ofNat (n : Nat) : YearDigits where
  chars := Writing.padded 4 n
  allDigits := allDigits_padded 4 n
  four_le := by
    rw [length_padded_four]
    exact Nat.le_max_left _ _
  head_ne_zero := by
    intro hlong hzero
    rw [length_padded_four] at hlong
    cases hchars : Writing.padded 4 n with
    | nil =>
      rw [hchars] at hzero
      exact nomatch hzero
    | cons c s =>
      have hlength := length_padded_four n
      have hdigits := allDigits_padded 4 n
      have hvalue := ofDigitChars_padded 4 n
      rw [hchars] at hzero hlength hdigits hvalue
      -- a zero in front denotes nothing, so that the other digits alone would do
      rw [Option.some.inj hzero, Nat.ofDigitChars_cons] at hvalue
      have hless : n < 10 ^ s.length := by
        rw [← hvalue]
        exact ofDigitChars_lt fun d hd => hdigits d (List.mem_cons_of_mem c hd)
      rw [List.length_cons] at hlength
      have hshorter : (Nat.toDigits 10 n).length ≤ s.length :=
        (Nat.length_toDigits_le_iff (by decide) (by omega)).2 hless
      omega

theorem pow_le_value (digits : YearDigits) (hlong : 4 < digits.chars.length) :
    10 ^ (digits.chars.length - 1) ≤ digits.value := by
  obtain ⟨chars, hdigits, hfour, hhead⟩ := digits
  cases chars with
  | nil => exact absurd hlong (Nat.not_lt_zero 4)
  | cons c s =>
    have hzero : c ≠ '0' := fun heq => hhead hlong (congrArg some heq)
    exact pow_le_ofDigitChars (hdigits c List.mem_cons_self) hzero

theorem value_ofNat (n : Nat) : (ofNat n).value = n := ofDigitChars_padded 4 n

theorem length_eq_four (digits : YearDigits) (h : digits.value ≤ 9999) :
    digits.chars.length = 4 := by
  have hfour := digits.four_le
  by_contra hne
  have hpow := digits.pow_le_value (by omega)
  have hless : 10 ^ 4 ≤ 10 ^ (digits.chars.length - 1) :=
    Nat.pow_le_pow_right (by decide) (by omega)
  omega

theorem eq_padded (digits : YearDigits) : digits.chars = Writing.padded 4 digits.value := by
  apply eq_of_ofDigitChars_eq digits.allDigits (allDigits_padded 4 digits.value)
  · have hfour := digits.four_le
    have hless : digits.value < 10 ^ digits.chars.length := ofDigitChars_lt digits.allDigits
    rw [length_padded_four]
    have hmost : (Nat.toDigits 10 digits.value).length ≤ digits.chars.length :=
      (Nat.length_toDigits_le_iff (by decide) (by omega)).2 hless
    by_cases hlong : 4 < digits.chars.length
    · have hleast : ¬(Nat.toDigits 10 digits.value).length ≤ digits.chars.length - 1 := by
        rw [Nat.length_toDigits_le_iff (by decide) (by omega), Nat.not_lt]
        exact digits.pow_le_value hlong
      omega
    · omega
  · exact (ofDigitChars_padded 4 digits.value).symm

end YearDigits

/-! ### Years as they are written -/

/-- A year with the sign that it needs: none from 0 to 9999, and its own otherwise. -/
structure YearText where
  sign : Sign
  digits : YearDigits
  fits : match sign with
    | .none => digits.value ≤ 9999
    | .minus => 1 ≤ digits.value
    | .plus => 10000 ≤ digits.value

namespace YearText

def chars (year : YearText) : List Char := year.sign.text ++ year.digits.chars

def value (year : YearText) : Int :=
  if year.sign.isMinus then -year.digits.value else year.digits.value

theorem exists_value (n : Int) : ∃ year : YearText, year.value = n := by
  have hvalue := YearDigits.value_ofNat n.natAbs
  by_cases hnegative : n < 0
  · refine ⟨⟨.minus, .ofNat n.natAbs, ?_⟩, ?_⟩
    · simp only [hvalue]
      omega
    · simp only [value, Sign.isMinus, hvalue, if_true]
      omega
  · by_cases hlarge : n < 10000
    · refine ⟨⟨.none, .ofNat n.natAbs, ?_⟩, ?_⟩
      · simp only [hvalue]
        omega
      · simp only [value, Sign.isMinus, hvalue, Bool.false_eq_true, if_false]
        omega
    · refine ⟨⟨.plus, .ofNat n.natAbs, ?_⟩, ?_⟩
      · simp only [hvalue]
        omega
      · simp only [value, Sign.isMinus, hvalue, Bool.false_eq_true, if_false]
        omega

theorem chars_eq (year : YearText) : year.chars = Writing.year true year.value := by
  obtain ⟨sign, digits, fits⟩ := year
  have hdigits := digits.eq_padded
  cases sign with
  | none =>
    simp only at fits
    have hvalue : value ⟨.none, digits, fits⟩ = digits.value := rfl
    rw [hvalue, Writing.year, if_neg (by omega), if_pos (by omega), Int.natAbs_natCast, if_pos rfl,
      ← hdigits]
    rfl
  | minus =>
    simp only at fits
    have hvalue : value ⟨.minus, digits, fits⟩ = -digits.value := rfl
    rw [hvalue, Writing.year, if_pos (by omega), Int.natAbs_neg, Int.natAbs_natCast, if_pos rfl,
      ← hdigits]
    rfl
  | plus =>
    simp only at fits
    have hvalue : value ⟨.plus, digits, fits⟩ = digits.value := rfl
    rw [hvalue, Writing.year, if_neg (by omega), if_neg (by omega), Int.natAbs_natCast, if_pos rfl,
      ← hdigits]
    rfl

end YearText

/-! ### Reading -/

namespace YearText

theorem signedNumber?_append (year : YearText) (hvalue : year.digits.value < 0x8000000000000000)
    {rest : List Char} (hrest : ∀ c, rest.head? = some c → c.isDigit = false) :
    Reading.signedNumber? 4 (year.chars ++ rest) = some (year.value, rest) := by
  obtain ⟨sign, digits, fits⟩ := year
  have hne : digits.chars ≠ [] :=
    List.ne_nil_of_length_pos (Nat.lt_of_lt_of_le (by decide) digits.four_le)
  have hrun := Reading.number?_run digits.allDigits hne hvalue hrest
  cases sign with
  | none =>
    -- without a sign no more than four digits are read
    let four : Digits 4 := ⟨digits.chars, digits.length_eq_four fits, digits.allDigits⟩
    calc Reading.signedNumber? 4 (four.chars ++ rest)
        = Reading.number? (some 4) (four.chars ++ rest) :=
          four.signedNumber?_append (by decide) rest
      _ = some ((four.value : Int), rest) := four.number?_append (by decide) hvalue rest
  | minus =>
    have hchars : chars ⟨.minus, digits, fits⟩ = '-' :: digits.chars := rfl
    rw [hchars, List.cons_append, Reading.signedNumber?, hrun]
    rfl
  | plus => exact hrun

theorem startsSolid (year : YearText) : StartsSolid year.chars := by
  obtain ⟨sign, digits, fits⟩ := year
  intro c hc
  cases sign with
  | none => exact isBlank_of_isDigit (digits.allDigits c (List.mem_of_head? hc))
  | minus =>
    rw [← Option.some.inj hc]
    rfl
  | plus =>
    rw [← Option.some.inj hc]
    rfl

theorem ne_nil (year : YearText) : year.chars ≠ [] := by
  have hdigits : year.digits.chars ≠ [] :=
    List.ne_nil_of_length_pos (Nat.lt_of_lt_of_le (by decide) year.digits.four_le)
  exact List.append_ne_nil_of_right_ne_nil _ hdigits

end YearText

def dateItems : List Item :=
  [.field .year true, .literal ['-'], .field .month true, .literal ['-'], .field .day true]

theorem Digits.number?_two (digits : Digits 2) (rest : List Char) :
    Reading.number? (some 2) (trimStart (digits.chars ++ rest)) =
      some ((digits.value : Int), rest) := by
  have hvalue : digits.value < 0x8000000000000000 :=
    Nat.lt_of_lt_of_le digits.value_lt (by decide)
  rw [digits.trimStart_append (by decide), digits.number?_append (by decide) hvalue]

section Written

variable {year : YearText} {month day : Digits 2}
  (hyear : firstYear ≤ year.value ∧ year.value ≤ lastYear)
  (hgregorian : IsGregorian year.value month.value day.value)

include hyear in
theorem component?_year (rest : List Char) :
    Reading.component? .year {} (year.chars ++ '-' :: rest) =
      some ({ year := some year.value }, '-' :: rest) := by
  rw [firstYear, lastYear] at hyear
  have hdigits : year.digits.value < 0x8000000000000000 := by
    have hvalue : year.value = year.digits.value ∨ year.value = -year.digits.value := by
      rw [YearText.value]
      split
      · exact Or.inr rfl
      · exact Or.inl rfl
    omega
  have hrange : -2147483648 ≤ year.value ∧ year.value ≤ 2147483647 := by omega
  have hmark : ∀ c, ('-' :: rest).head? = some c → c.isDigit = false := by
    intro c hc
    rw [← Option.some.inj hc]
    rfl
  have htrim : trimStart (year.chars ++ '-' :: rest) = year.chars ++ '-' :: rest :=
    trimStart_of_solid (year.startsSolid.append year.ne_nil _)
  simp only [Reading.component?, htrim, year.signedNumber?_append hdigits hmark, Fields.setYear,
    if_pos hrange]
  rfl

include hgregorian in
theorem component?_month (rest : List Char) :
    Reading.component? .month { year := some year.value } (month.chars ++ rest) =
      some ({ year := some year.value, month := some month.value }, rest) := by
  have hrange : (1 : Int) ≤ month.value ∧ (month.value : Int) ≤ 12 := by
    have hmonth := hgregorian.month_range
    omega
  simp only [Reading.component?, month.number?_two, Fields.setMonth, if_pos hrange]
  rfl

include hgregorian in
theorem component?_day :
    Reading.component? .day { year := some year.value, month := some month.value } day.chars =
      some ({ year := some year.value, month := some month.value, day := some day.value }, []) := by
  have hrange : (1 : Int) ≤ day.value ∧ (day.value : Int) ≤ 31 := by
    have hday := hgregorian.day_range
    omega
  have hread := day.number?_two []
  rw [List.append_nil] at hread
  simp only [Reading.component?, hread, Fields.setDay, if_pos hrange]
  rfl

include hyear hgregorian

theorem fields?_written :
    Reading.fields? dateItems {} (joined '-' year.chars month.chars day.chars) =
      some { year := some year.value, month := some month.value, day := some day.value } := by
  simp only [dateItems, joined, Reading.fields?, component?_year hyear, component?_month hgregorian,
    component?_day hgregorian, List.isPrefixOf_cons_cons_self, List.isPrefixOf_nil_left, if_true,
    List.length_singleton, List.drop_succ_cons, List.drop_zero, List.isEmpty_nil]

theorem readAndWrite_written :
    readAndWrite { year := true, month := true, day := true } dateItems
        (joined '-' year.chars month.chars day.chars) =
      some (joined '-' year.chars month.chars day.chars) := by
  have hvalid : CalendarDate.isValid ⟨year.value, month.value, day.value⟩ = true :=
    CalendarDate.isValid_iff.2 ⟨hyear, hgregorian⟩
  have hdate : Fields.date?
      { year := some year.value, month := some month.value, day := some day.value } =
        .ok ⟨year.value, month.value, day.value⟩ := by
    simp only [Fields.date?, Fields.resolvedYear, if_pos hvalid]
  have hwritten : Writing.text? (some ⟨year.value, month.value, day.value⟩) none dateItems =
      some (joined '-' (Writing.year true year.value) (Writing.padded 2 month.value)
        (Writing.padded 2 day.value ++ [])) := rfl
  have hrender : render { year := true, month := true, day := true } dateItems
      { year := some year.value, month := some month.value, day := some day.value } =
        some (joined '-' year.chars month.chars day.chars) := by
    have hconcerns : Components.concernsDate { year := true, month := true, day := true } = true ∧
        Components.concernsTime { year := true, month := true, day := true } = false := ⟨rfl, rfl⟩
    simp only [render, hconcerns.1, hconcerns.2, hdate, hwritten]
    rw [List.append_nil, ← year.chars_eq, ← month.eq_padded (by decide),
      ← day.eq_padded (by decide)]
  have hcompleted : completed { year := true, month := true, day := true }
      { year := some year.value, month := some month.value, day := some day.value } =
        .ok { year := some year.value, month := some month.value, day := some day.value } := rfl
  simp only [readAndWrite, fields?_written hyear hgregorian, hcompleted, hrender, reduceCtorEq,
    if_false]

end Written

/-! ### Values -/

theorem isDateUnder_standardDate (value : String) :
    isDateUnder value standardDatePattern =
      (readAndWrite { year := true, month := true, day := true } dateItems (trim value.toList) ==
        some (trim value.toList)) := rfl

theorem exists_yearText {value : String} (h : isDateUnder value standardDatePattern = true) :
    ∃ (year : YearText) (month day : Digits 2),
      trim value.toList = joined '-' year.chars month.chars day.chars ∧
      (firstYear ≤ year.value ∧ year.value ≤ lastYear) ∧
      IsGregorian year.value month.value day.value := by
  obtain ⟨⟨year, month, day⟩, time, hvalid, -, hwritten⟩ := dateLayout.exists_written h
  rw [dateLayout_written, CalendarDate.text] at hwritten
  obtain ⟨hyear, hgregorian⟩ := CalendarDate.isValid_iff.1 hvalid
  have hmonth := hgregorian.month_range
  have hday := hgregorian.day_range
  simp only at hwritten hyear hgregorian hmonth hday
  obtain ⟨yearText, rfl⟩ := YearText.exists_value year
  let monthDigits : Digits 2 := .ofNat 2 month (by decide) (by omega)
  let dayDigits : Digits 2 := .ofNat 2 day (by decide) (by omega)
  have hmonthValue : monthDigits.value = month := ofDigitChars_padded 2 month
  have hdayValue : dayDigits.value = day := ofDigitChars_padded 2 day
  refine ⟨yearText, monthDigits, dayDigits, ?_, hyear, ?_⟩
  · rw [yearText.chars_eq]
    exact (Option.some.inj hwritten).symm
  · rw [hmonthValue, hdayValue]
    exact hgregorian

end Date

/-- A value is a date of the standard pattern if, trimmed, it is a day of the calendar written with
a year of four digits, or with a year outside 0 to 9999 and its sign.  Without a sign it has the
form of a date. -/
theorem isDateUnder_signedYear (value : String) :
    (isDateUnder value standardDatePattern = true ↔
      ∃ (year : YearText) (month day : Digits 2),
        trim value.toList = joined '-' year.chars month.chars day.chars ∧
        (firstYear ≤ year.value ∧ year.value ≤ lastYear) ∧
        IsGregorian year.value month.value day.value) ∧
    (isDateUnder value standardDatePattern = true →
      (trim value.toList).head? ≠ some '-' → (trim value.toList).head? ≠ some '+' →
        ∃ digits : DateDigits, trim value.toList = digits.chars) := by
  refine ⟨⟨exists_yearText, fun ⟨year, month, day, htext, hyear, hgregorian⟩ => ?_⟩, ?_⟩
  · rw [isDateUnder_standardDate, htext, readAndWrite_written hyear hgregorian, beq_self_eq_true]
  · intro h hminus hplus
    obtain ⟨year, month, day, htext, -, -⟩ := exists_yearText h
    obtain ⟨sign, digits, fits⟩ := year
    rw [htext] at hminus hplus ⊢
    cases sign with
    | none =>
      let four : Digits 4 := ⟨digits.chars, digits.length_eq_four fits, digits.allDigits⟩
      exact ⟨⟨four, month, day⟩, rfl⟩
    | minus => exact absurd rfl hminus
    | plus => exact absurd rfl hplus

/-- A day of a year from 0 to 9999. -/
theorem isDateUnder_signedYear_plain :
    isDateUnder " 2018-12-11" standardDatePattern = true ∧
      (trim " 2018-12-11".toList).head? ≠ some '-' ∧ (trim " 2018-12-11".toList).head? ≠ some '+' ∧
      ∃ digits : DateDigits, trim " 2018-12-11".toList = digits.chars := by
  have haccepted : isDateUnder " 2018-12-11" standardDatePattern = true := by decide
  have hminus : (trim " 2018-12-11".toList).head? ≠ some '-' := by decide
  have hplus : (trim " 2018-12-11".toList).head? ≠ some '+' := by decide
  exact ⟨haccepted, hminus, hplus, (isDateUnder_signedYear " 2018-12-11").2 haccepted hminus hplus⟩

/-- Not every date has the form of a date: one of the year before year 0, and one of a year with
five digits. -/
theorem isDateUnder_of_sign :
    (isDateUnder "-0001-01-01" standardDatePattern = true ∧
      ¬∃ digits : DateDigits, trim "-0001-01-01".toList = digits.chars) ∧
    isDateUnder "+12345-01-01" standardDatePattern = true ∧
      ¬∃ digits : DateDigits, trim "+12345-01-01".toList = digits.chars := by
  have hlong : ∀ {s : List Char}, s.length ≠ 10 → ¬∃ digits : DateDigits, s = digits.chars := by
    intro s hs ⟨digits, htext⟩
    apply hs
    rw [htext, DateDigits.chars, length_joined, digits.year.length_eq, digits.month.length_eq,
      digits.day.length_eq]
  exact ⟨⟨by decide, hlong (by decide)⟩, by decide, hlong (by decide)⟩

end FormRules
