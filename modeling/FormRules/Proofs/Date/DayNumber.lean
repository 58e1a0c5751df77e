import FormRules.Proofs.Date.Gregorian

/-!
# Days by their number

Four hundred years, counted from March, are an era of 146097 days.  Within it a day is found by its
century, its four years, its year and the day in that year, and only the last year of four may have
a day more.  `dayNumber_ofDayNumber` and `isGregorian_ofDayNumber` say that every number is that of
a day of the calendar, and `year_range_iff` which numbers the first and the last year leave.
-/

namespace FormRules.Date

/-- A day of an era. -/
structure EraDay where
  century : Int
  fourYears : Int
  year : Int
  day : Int
  century_range : 0 ≤ century ∧ century ≤ 3
  fourYears_range : 0 ≤ fourYears ∧ fourYears ≤ 24
  year_range : 0 ≤ year ∧ year ≤ 3
  day_range : 0 ≤ day ∧ day ≤ 365
  /-- The end of February in a leap year. -/
  leap : day = 365 → year = 3 ∧ (fourYears = 24 → century = 3)

namespace EraDay

variable (e : EraDay)

/-- The number of days from the start of the era. -/
def number : Int := 36524 * e.century + 1461 * e.fourYears + 365 * e.year + e.day

/-- The number of years from the start of the era. -/
def yearNumber : Int := 100 * e.century + 4 * e.fourYears + e.year

/-- The month, from 0 for March on. -/
def month : Int := (5 * e.day + 2) / 153

def dayOfMonth : Int := e.day - (153 * e.month + 2) / 5 + 1

theorem exists_number {n : Int} (hn : 0 ≤ n ∧ n < 146097) : ∃ e : EraDay, e.number = n := by
  -- the last century and the last year take the day that is left
  let century := min (n / 36524) 3
  let inCentury := n - 36524 * century
  let fourYears := inCentury / 1461
  let inFourYears := inCentury - 1461 * fourYears
  let year := min (inFourYears / 365) 3
  have hcentury : 0 ≤ inCentury ∧ inCentury ≤ 36524 ∧ (inCentury = 36524 → century = 3) := by omega
  have hfour : 0 ≤ inFourYears ∧ inFourYears ≤ 1460 := by omega
  refine ⟨⟨century, fourYears, year, inFourYears - 365 * year, by omega, by omega, by omega,
    by omega, by omega⟩, ?_⟩
  simp only [number]
  omega

theorem number_range : 0 ≤ e.number ∧ e.number < 146097 := by
  obtain ⟨century, fourYears, year, day, hcentury, hfour, hyear, hday, hleap⟩ := e
  simp only [number]
  omega

theorem yearNumber_eq :
    (e.number - e.number / 1460 + e.number / 36524 - e.number / 146096) / 365 = e.yearNumber := by
  obtain ⟨century, fourYears, year, day, hcentury, hfour, hyear, hday, hleap⟩ := e
  simp only [number, yearNumber]
  generalize hn : 36524 * century + 1461 * fourYears + 365 * year + day = n
  have hend : n < 36524 * (century + 1) ∨ century = 3 ∧ n = 146096 := by omega
  have hcenturies : n / 36524 - n / 146096 = century := by
    rcases hend with hend | ⟨hcentury, hlast⟩
    · have hbegun : n / 36524 = century := by omega
      have hnone : n / 146096 = 0 := by omega
      omega
    · omega
  -- how many years of 1460 days for four are through: one more late in the last of four years
  by_cases hlate : 1460 ≤ 24 * century + fourYears + 365 * year + day
  · have hyears : n / 1460 = 25 * century + fourYears + 1 := by omega
    omega
  · have hyears : n / 1460 = 25 * century + fourYears := by omega
    omega

theorem day_eq :
    e.number - (365 * e.yearNumber + e.yearNumber / 4 - e.yearNumber / 100) = e.day := by
  obtain ⟨century, fourYears, year, day, hcentury, hfour, hyear, hday, hleap⟩ := e
  simp only [number, yearNumber]
  omega

theorem month_range : 0 ≤ e.month ∧ e.month ≤ 11 := by
  have hday := e.day_range
  rw [month]
  omega

end EraDay

namespace CalendarDate

theorem ofDayNumber_eq (era : Int) (e : EraDay) :
    ofDayNumber (146097 * era + e.number - 719468) =
      ⟨400 * era + e.yearNumber + (if e.month < 10 then 0 else 1),
        (if e.month < 10 then e.month + 3 else e.month - 9).toNat, e.dayOfMonth.toNat⟩ := by
  have hnumber := e.number_range
  have hmonth := e.month_range
  have hdays : 146097 * era + e.number - 719468 + 719468 = 146097 * era + e.number := by omega
  have hera : (146097 * era + e.number) / 146097 = era := by omega
  have hrest : (146097 * era + e.number) % 146097 = e.number := by omega
  have hinMonth : (5 * e.day + 2) / 153 = e.month := rfl
  simp only [ofDayNumber, hdays, hera, hrest, e.yearNumber_eq, e.day_eq, hinMonth,
    EraDay.dayOfMonth, CalendarDate.mk.injEq, and_true]
  split <;> split <;> omega

theorem exists_eraDay (n : Int) :
    ∃ (era : Int) (e : EraDay), n = 146097 * era + e.number - 719468 := by
  have hrange : 0 ≤ (n + 719468) % 146097 ∧ (n + 719468) % 146097 < 146097 := by omega
  obtain ⟨e, he⟩ := EraDay.exists_number hrange
  exact ⟨(n + 719468) / 146097, e, by omega⟩

theorem dayNumber_ofDayNumber (n : Int) : (ofDayNumber n).dayNumber = n := by
  obtain ⟨era, e, rfl⟩ := exists_eraDay n
  have hmonth := e.month_range
  have hday : 1 ≤ e.dayOfMonth := by
    have hrange := e.day_range
    rw [EraDay.dayOfMonth, EraDay.month]
    omega
  have hin : (153 * e.month + 2) / 5 + e.dayOfMonth = e.day + 1 := by
    rw [EraDay.dayOfMonth]
    omega
  have hyears := e.day_eq
  have hera : e.yearNumber / 400 = 0 := by
    obtain ⟨century, fourYears, year, day, hcentury, hfour, hyear, hday, hleap⟩ := e
    simp only [EraDay.yearNumber]
    omega
  rw [ofDayNumber_eq]
  simp only [dayNumber]
  by_cases hautumn : e.month < 10
  · have hmarch : ¬(e.month + 3).toNat ≤ 2 := by omega
    have hback : (((e.month + 3).toNat : Int) + 9) % 12 = e.month := by omega
    rw [if_pos hautumn, if_pos hautumn, if_neg hmarch, hback]
    omega
  · have hmarch : (e.month - 9).toNat ≤ 2 := by omega
    have hback : (((e.month - 9).toNat : Int) + 9) % 12 = e.month := by omega
    rw [if_neg hautumn, if_neg hautumn, if_pos hmarch, hback]
    omega

theorem isGregorian_ofDayNumber (n : Int) :
    IsGregorian (ofDayNumber n).year (ofDayNumber n).month (ofDayNumber n).day := by
  obtain ⟨era, e, rfl⟩ := exists_eraDay n
  rw [ofDayNumber_eq]
  have hmonth := e.month_range
  obtain ⟨century, fourYears, year, day, hcentury, hfour, hyear, hday, hleap⟩ := e
  simp only [EraDay.month, EraDay.dayOfMonth, EraDay.yearNumber] at hmonth ⊢
  constructor
  · omega
  · omega
  · omega
  · omega
  · omega

/-! ### The first and the last year -/

/-- The days of the years before a year. -/
def yearDays (year : Int) : Int := 365 * year + year / 4 - year / 100 + year / 400

theorem yearDays_mono {year later : Int} (h : year ≤ later) : yearDays year ≤ yearDays later := by
  -- a century is twenty-five times four years
  have hcentury : year / 100 = year / 4 / 25 := by omega
  have hlater : later / 100 = later / 4 / 25 := by omega
  have hfour : year / 4 ≤ later / 4 := by omega
  have hera : year / 400 ≤ later / 400 := by omega
  simp only [yearDays]
  omega

/-- The days of a year are those behind the end of the year before, up to its own end. -/
theorem dayNumber_bounds {date : CalendarDate} (h : IsGregorian date.year date.month date.day) :
    yearDays (date.year - 1) + 307 ≤ date.dayNumber + 719469 ∧
      date.dayNumber + 719469 ≤ yearDays date.year + 306 := by
  have hmonth := h.month_range
  have hday := h.day_range
  have hbefore : yearDays (date.year - 1) + 365 ≤ yearDays date.year := by
    simp only [yearDays]
    omega
  by_cases hmarch : date.month ≤ 2
  · have hin : ((date.month : Int) + 9) % 12 = date.month + 9 := by omega
    have hend : date.month = 2 → date.day ≤ 29 := h.february
    have hnumber : date.dayNumber + 719469 =
        yearDays (date.year - 1) + (153 * (date.month + 9 : Int) + 2) / 5 + date.day := by
      simp only [dayNumber, yearDays, if_pos hmarch, hin]
      omega
    omega
  · have hin : ((date.month : Int) + 9) % 12 = date.month - 3 := by omega
    have hnumber : date.dayNumber + 719469 =
        yearDays date.year + (153 * (date.month - 3 : Int) + 2) / 5 + date.day := by
      simp only [dayNumber, yearDays, if_neg hmarch, hin]
      omega
    omega

theorem year_range_iff {date : CalendarDate} (h : IsGregorian date.year date.month date.day) :
    firstYear ≤ date.year ∧ date.year ≤ lastYear ↔
      -96465292 ≤ date.dayNumber ∧ date.dayNumber ≤ 95026236 := by
  have hbounds := dayNumber_bounds h
  have hfirst : yearDays (-262144) = -95746130 := rfl
  have hlast : yearDays 262142 = 95745399 := rfl
  constructor
  · intro ⟨hlow, hhigh⟩
    have hbegin : yearDays (-262144) ≤ yearDays (date.year - 1) :=
      yearDays_mono (by rw [firstYear] at hlow; omega)
    have hend : yearDays date.year ≤ yearDays 262142 := yearDays_mono hhigh
    omega
  · intro ⟨hlow, hhigh⟩
    constructor
    · by_contra hearly
      have hend : yearDays date.year ≤ yearDays (-262144) :=
        yearDays_mono (by rw [firstYear] at hearly; omega)
      omega
    · by_contra hlate
      have hbegin : yearDays 262142 ≤ yearDays (date.year - 1) :=
        yearDays_mono (by rw [lastYear] at hlate; omega)
      omega

theorem isValid_ofDayNumber {n : Int} :
    (ofDayNumber n).isValid = true ↔ -96465292 ≤ n ∧ n ≤ 95026236 := by
  have hgregorian := isGregorian_ofDayNumber n
  rw [isValid_iff, and_iff_left hgregorian, year_range_iff hgregorian, dayNumber_ofDayNumber]

end CalendarDate

end FormRules.Date
