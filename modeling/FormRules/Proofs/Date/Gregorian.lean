import FormRules.Date.Calendar
import Mathlib.Tactic.IntervalCases

/-!
# Days of the Gregorian calendar

The rules of the calendar in words: the lengths of the months, and which years have a leap day.
Between the first and the last year these are the rules by which dates are checked.
-/

namespace FormRules.Date

/-- The rules of the Gregorian calendar for a day. -/
structure IsGregorian (year : Int) (month day : Nat) : Prop where
  month_range : 1 ≤ month ∧ month ≤ 12
  day_range : 1 ≤ day ∧ day ≤ 31
  shortMonth : month = 4 ∨ month = 6 ∨ month = 9 ∨ month = 11 → day ≤ 30
  february : month = 2 → day ≤ 29
  leapDay : month = 2 → day = 29 → 4 ∣ year ∧ (100 ∣ year → 400 ∣ year)

theorem isLeapYear_iff (year : Int) :
    isLeapYear year = true ↔ 4 ∣ year ∧ (100 ∣ year → 400 ∣ year) := by
  simp only [isLeapYear, Bool.and_eq_true, Bool.or_eq_true, beq_iff_eq, bne_iff_ne]
  omega

theorem daysInMonth_february (year : Int) :
    daysInMonth year 2 = if isLeapYear year then 29 else 28 := rfl

theorem daysInMonth_of_ne {year : Int} {month : Nat} (hrange : 1 ≤ month ∧ month ≤ 12)
    (hmonth : month ≠ 2) :
    daysInMonth year month =
      if month = 4 ∨ month = 6 ∨ month = 9 ∨ month = 11 then 30 else 31 := by
  obtain ⟨hfirst, hlast⟩ := hrange
  interval_cases month <;> first | rfl | exact absurd rfl hmonth

/-- Other numbers than those of the twelve months have no days. -/
theorem month_range_of_pos {year : Int} {month : Nat} (h : 0 < daysInMonth year month) :
    1 ≤ month ∧ month ≤ 12 := by
  by_contra hrange
  unfold daysInMonth at h
  split at h <;> omega

theorem isGregorian_iff {year : Int} {month day : Nat} :
    IsGregorian year month day ↔ 1 ≤ day ∧ day ≤ daysInMonth year month := by
  constructor
  · intro h
    refine ⟨h.day_range.1, ?_⟩
    have hday := h.day_range
    have hshort := h.shortMonth
    by_cases hmonth : month = 2
    · have hfebruary := h.february hmonth
      have hleap : day = 29 → isLeapYear year = true :=
        fun hlast => (isLeapYear_iff year).2 (h.leapDay hmonth hlast)
      rw [hmonth, daysInMonth_february]
      split
      · exact hfebruary
      · rename_i hnot
        have hne : day ≠ 29 := fun hlast => hnot (hleap hlast)
        omega
    · rw [daysInMonth_of_ne h.month_range hmonth]
      split
      · rename_i hfour
        exact hshort hfour
      · exact hday.2
  · intro ⟨hfirst, hlast⟩
    have hrange : 1 ≤ month ∧ month ≤ 12 := month_range_of_pos (Nat.lt_of_lt_of_le hfirst hlast)
    have hday : day ≤ 31 := hlast.trans (daysInMonth_le year month)
    by_cases hmonth : month = 2
    · rw [hmonth, daysInMonth_february] at hlast
      refine ⟨hrange, ⟨hfirst, hday⟩, by omega, fun _ => ?_, fun _ heq => ?_⟩
      · split at hlast <;> omega
      · rw [← isLeapYear_iff]
        by_contra hnot
        rw [if_neg hnot] at hlast
        omega
    · rw [daysInMonth_of_ne hrange hmonth] at hlast
      refine ⟨hrange, ⟨hfirst, hday⟩, fun hfour => ?_, fun heq => absurd heq hmonth,
        fun heq => absurd heq hmonth⟩
      rwa [if_pos hfour] at hlast

theorem CalendarDate.isValid_iff {date : CalendarDate} :
    date.isValid = true ↔ (firstYear ≤ date.year ∧ date.year ≤ lastYear) ∧
      IsGregorian date.year date.month date.day := by
  rw [isGregorian_iff]
  simp only [CalendarDate.isValid, Bool.and_eq_true, decide_eq_true_eq, and_assoc]

theorem TimeOfDay.isValid_iff {time : TimeOfDay} :
    time.isValid = true ↔ time.hour < 24 ∧ time.minute < 60 ∧ time.second < 60 := by
  simp only [TimeOfDay.isValid, Bool.and_eq_true, decide_eq_true_eq, and_assoc]

end FormRules.Date
