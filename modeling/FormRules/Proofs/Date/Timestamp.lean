import FormRules.Proofs.Date.DayNumber
import FormRules.Proofs.Date.Digits
import FormRules.Proofs.Date.Writing

/-!
# Timestamps

The timestamps of the dates and times that there are form an interval, and each of them determines
its date and its time.  `isDateUnder_timestamp` says which values are accepted as one: reading takes
no sign, so only those from 1970 on, each in its one decimal form.

The table of letters of `is_date` calls `U` a timestamp and sets it no bound.
-/

namespace FormRules

open FormRules.Text FormRules.Date

namespace Date

/-- A number of seconds between the start of 1970 and a date and a time that there are. -/
def IsTimestamp (n : Int) : Prop :=
  ∃ date time, date.isValid = true ∧ time.isValid = true ∧ timestamp date time = n

theorem ofTimestamp_time_isValid (n : Int) : (ofTimestamp n).2.isValid = true := by
  have hclock : (n % 86400).toNat < 86400 := by omega
  exact TimeOfDay.ofSeconds_isValid hclock

theorem ofTimestamp_date_isValid {n : Int} :
    (ofTimestamp n).1.isValid = true ↔ -8334601228800 ≤ n ∧ n ≤ 8210266876799 := by
  have hdays : (ofTimestamp n).1.isValid = true ↔ -96465292 ≤ n / 86400 ∧ n / 86400 ≤ 95026236 :=
    CalendarDate.isValid_ofDayNumber
  rw [hdays]
  omega

theorem timestamp_ofTimestamp (n : Int) : timestamp (ofTimestamp n).1 (ofTimestamp n).2 = n := by
  have hseconds : ((TimeOfDay.ofSeconds (n % 86400).toNat).seconds : Int) = n % 86400 := by
    simp only [TimeOfDay.ofSeconds, TimeOfDay.seconds]
    omega
  rw [timestamp, ofTimestamp, CalendarDate.dayNumber_ofDayNumber, hseconds]
  omega

theorem isTimestamp_iff {n : Int} :
    IsTimestamp n ↔ -8334601228800 ≤ n ∧ n ≤ 8210266876799 := by
  constructor
  · intro ⟨date, time, hdate, htime, hn⟩
    obtain ⟨hyear, hgregorian⟩ := CalendarDate.isValid_iff.1 hdate
    have hday := (CalendarDate.year_range_iff hgregorian).1 hyear
    have hclock := TimeOfDay.isValid_iff.1 htime
    rw [timestamp, TimeOfDay.seconds] at hn
    omega
  · intro hrange
    exact ⟨_, _, ofTimestamp_date_isValid.2 hrange, ofTimestamp_time_isValid n,
      timestamp_ofTimestamp n⟩

/-! ### Fields with a timestamp alone -/

theorem Fields.ofTimestamp?_alone (n : Int) :
    Fields.ofTimestamp? { timestamp := some n } n =
      if (ofTimestamp n).1.isValid then .ok (ofTimestamp n) else .error .outOfRange := by
  unfold Fields.ofTimestamp?
  obtain ⟨hhour, hminute, hsecond⟩ := TimeOfDay.isValid_iff.1 (ofTimestamp_time_isValid n)
  generalize ofTimestamp n = moment at *
  obtain ⟨date, time⟩ := moment
  simp only at *
  by_cases hvalid : date.isValid = true
  · obtain ⟨⟨hfirst, hlast⟩, -⟩ := CalendarDate.isValid_iff.1 hvalid
    rw [firstYear] at hfirst
    rw [lastYear] at hlast
    have hsecond : (0 : Int) ≤ time.second ∧ (time.second : Int) ≤ 60 := by omega
    have hyear : -2147483648 ≤ date.year ∧ date.year ≤ 2147483647 := by omega
    have hhour : (0 : Int) ≤ time.hour ∧ (time.hour : Int) ≤ 23 := by omega
    have hminute : (0 : Int) ≤ time.minute ∧ (time.minute : Int) ≤ 59 := by omega
    rw [if_pos hvalid, if_pos hvalid]
    simp [setSecond, setYear, setHour, setMinute, setAfternoon, agree, Except.map, bind,
      Except.bind, hsecond, hyear, hhour, hminute, allowsDate]
  · rw [if_neg hvalid, if_neg hvalid]

theorem render_timestamp {n : Int} (h : (ofTimestamp n).1.isValid = true) :
    render { timestamp := true } [.field .timestamp false] { timestamp := some n } =
      some (Writing.integer n) := by
  have hmoment : Fields.dateTime? { timestamp := some n } = .ok (ofTimestamp n) := by
    have halone := Fields.ofTimestamp?_alone n
    rw [if_pos h] at halone
    exact halone
  have hboth : Components.concernsDate { timestamp := true } = true ∧
      Components.concernsTime { timestamp := true } = true := ⟨rfl, rfl⟩
  simp only [render, hboth.1, hboth.2, hmoment, Writing.text?, Writing.component?,
    timestamp_ofTimestamp, List.append_nil]

/-! ### Values -/

theorem isDateUnder_letterU (value : String) :
    isDateUnder value "U" =
      (readAndWrite { timestamp := true } [.field .timestamp false] (trim value.toList) ==
        some (trim value.toList)) := rfl

theorem readAndWrite_minus (s : List Char) :
    readAndWrite { timestamp := true } [.field .timestamp false] ('-' :: s) = none := rfl

theorem readAndWrite_decimal {n : Nat} (h : IsTimestamp n) :
    readAndWrite { timestamp := true } [.field .timestamp false] (Nat.toDigits 10 n) =
      some (Nat.toDigits 10 n) := by
  have hrange := isTimestamp_iff.1 h
  have hdigits : Numeral.AllDigits (Nat.toDigits 10 n) :=
    fun c hc => Nat.isDigit_of_mem_toDigits (by decide) (by decide) hc
  have hvalue : Nat.ofDigitChars 10 (Nat.toDigits 10 n) 0 = n := Nat.ofDigitChars_ten_toDigits
  have hread : Reading.number? none (Nat.toDigits 10 n) = some ((n : Int), []) := by
    have hbound : Nat.ofDigitChars 10 (Nat.toDigits 10 n) 0 < 0x8000000000000000 := by
      rw [hvalue]
      omega
    have hend : ∀ c, ([] : List Char).head? = some c → c.isDigit = false := fun _ hc => nomatch hc
    have hrun := Reading.number?_run hdigits Nat.toDigits_ne_nil hbound hend
    rwa [List.append_nil, hvalue] at hrun
  have htrim : trimStart (Nat.toDigits 10 n) = Nat.toDigits 10 n :=
    trimStart_of_solid fun c hc => isBlank_of_isDigit (hdigits c (List.mem_of_head? hc))
  have hfields : Reading.fields? [.field .timestamp false] {} (Nat.toDigits 10 n) =
      some { timestamp := some (n : Int) } := by
    simp only [Reading.fields?, Reading.component?, htrim, hread]
    rfl
  have hwritten : Writing.integer n = Nat.toDigits 10 n := by
    rw [Writing.integer, if_neg (by omega)]
    rfl
  have hcompleted : completed { timestamp := true } { timestamp := some (n : Int) } =
      .ok { timestamp := some (n : Int) } := rfl
  have hvalid := ofTimestamp_date_isValid.2 hrange
  simp only [readAndWrite, hfields, hcompleted, render_timestamp hvalid, hwritten, reduceCtorEq,
    if_false]

end Date

/-- A value is a timestamp if, trimmed, it is a whole number from 1970 on as it is written, without
a sign and without zeros in front, that is the timestamp of a date and a time that there are. -/
theorem isDateUnder_timestamp (value : String) :
    (isDateUnder value "U" = true ↔
      ∃ n : ℕ, IsTimestamp n ∧ trim value.toList = Nat.toDigits 10 n) ∧
    ∀ n, IsTimestamp n ↔ -8334601228800 ≤ n ∧ n ≤ 8210266876799 := by
  refine ⟨⟨fun h => ?_, fun ⟨n, hn, htext⟩ => ?_⟩, fun n => isTimestamp_iff⟩
  · obtain ⟨format, components, hformat, date, time, hdate, htime, hwritten⟩ :=
      isWritten_of_isDateUnder h
    obtain ⟨rfl, -⟩ := Prod.mk.inj (Option.some.inj hformat)
    have htext : trim value.toList = Writing.integer (timestamp date time) := by
      have hitem : some (Writing.integer (timestamp date time) ++ []) = some (trim value.toList) :=
        hwritten
      rw [← Option.some.inj hitem, List.append_nil]
    rw [Writing.integer] at htext
    split at htext
    · rw [isDateUnder_letterU, htext, List.singleton_append, readAndWrite_minus] at h
      exact nomatch h
    · rename_i hnegative
      have hcast : timestamp date time = ((timestamp date time).natAbs : Int) := by omega
      exact ⟨_, ⟨date, time, hdate, htime, hcast⟩, htext⟩
  · rw [isDateUnder_letterU, htext, readAndWrite_decimal hn, beq_self_eq_true]

/-- The last day of 1969 is no timestamp, though it is a date like any other. -/
theorem isDateUnder_timestamp_before :
    IsTimestamp (-86400) ∧ isDateUnder "-86400" "U" = false ∧
      isDateUnder "1969-12-31" standardDatePattern = true :=
  ⟨⟨⟨1969, 12, 31⟩, ⟨0, 0, 0⟩, by decide, by decide, by decide⟩, by decide, by decide⟩

end FormRules
