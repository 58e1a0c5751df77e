/-!
# The calendar

Days of the Gregorian calendar, extended to all years, and times of day.  `CalendarDate.dayNumber`
counts days from the first of January 1970, and `CalendarDate.ofDayNumber` goes back.

Embeds `NaiveDate` and `NaiveTime` of `chrono`.
-/

namespace FormRules.Date

def isLeapYear (year : Int) : Bool :=
  year % 4 == 0 && (year % 100 != 0 || year % 400 == 0)

/-- The number of days in a month, from 1 for January on; other numbers have none. -/
def daysInMonth (year : Int) (month : Nat) : Nat :=
  match month with
  | 1 => 31
  | 2 => if isLeapYear year then 29 else 28
  | 3 => 31
  | 4 => 30
  | 5 => 31
  | 6 => 30
  | 7 => 31
  | 8 => 31
  | 9 => 30
  | 10 => 31
  | 11 => 30
  | 12 => 31
  | _ => 0

theorem daysInMonth_le (year : Int) (month : Nat) : daysInMonth year month ≤ 31 := by
  unfold daysInMonth
  split <;> first | decide | (split <;> decide)

/-- A day given by year, month and day. -/
structure CalendarDate where
  year : Int
  month : Nat
  day : Nat
  deriving DecidableEq, Repr

/-- A time of day, to the second. -/
structure TimeOfDay where
  hour : Nat
  minute : Nat
  second : Nat
  deriving DecidableEq, Repr

/-- The first and the last year that dates may have. -/
def firstYear : Int := -262143

/-- The last year that dates may have. -/
def lastYear : Int := 262142

namespace CalendarDate

/-- Whether there is such a day. -/
def isValid (date : CalendarDate) : Bool :=
  firstYear ≤ date.year && date.year ≤ lastYear &&
    1 ≤ date.day && date.day ≤ daysInMonth date.year date.month

/-- The number of days from the first of January 1970.  Years are counted from the first of March,
so that a leap day is the last day of its year. -/
def dayNumber (date : CalendarDate) : Int :=
  let year := if date.month ≤ 2 then date.year - 1 else date.year
  let month : Int := (date.month + 9) % 12
  365 * year + year / 4 - year / 100 + year / 400 + (153 * month + 2) / 5 + date.day - 719469

def ofDayNumber (n : Int) : CalendarDate :=
  let days := n + 719468
  let era := days / 146097
  let dayOfEra := days % 146097
  let yearOfEra := (dayOfEra - dayOfEra / 1460 + dayOfEra / 36524 - dayOfEra / 146096) / 365
  let dayOfYear := dayOfEra - (365 * yearOfEra + yearOfEra / 4 - yearOfEra / 100)
  let month := (5 * dayOfYear + 2) / 153
  let day := dayOfYear - (153 * month + 2) / 5 + 1
  let month := if month < 10 then month + 3 else month - 9
  let year := yearOfEra + 400 * era
  ⟨if month ≤ 2 then year + 1 else year, month.toNat, day.toNat⟩

/-- The day of the week, from 0 for Monday on. -/
def weekday (date : CalendarDate) : Nat := ((date.dayNumber + 3) % 7).toNat

theorem weekday_lt (date : CalendarDate) : date.weekday < 7 := by
  simp only [weekday]
  omega

theorem weekday_succ {a b : CalendarDate} (h : b.dayNumber = a.dayNumber + 1) :
    b.weekday = (a.weekday + 1) % 7 := by
  simp only [weekday, h]
  omega

end CalendarDate

namespace TimeOfDay

/-- Whether there is such a time. -/
def isValid (time : TimeOfDay) : Bool := time.hour < 24 && time.minute < 60 && time.second < 60

/-- The number of seconds since midnight. -/
def seconds (time : TimeOfDay) : Nat := 3600 * time.hour + 60 * time.minute + time.second

/-- The time a number of seconds after midnight. -/
def ofSeconds (n : Nat) : TimeOfDay := ⟨n / 3600, n / 60 % 60, n % 60⟩

theorem ofSeconds_isValid {n : Nat} (h : n < 86400) : (ofSeconds n).isValid = true := by
  have hour : n / 3600 < 24 := by omega
  have minute : n / 60 % 60 < 60 := Nat.mod_lt _ (by decide)
  have second : n % 60 < 60 := Nat.mod_lt _ (by decide)
  simp only [ofSeconds, isValid, hour, minute, second, decide_true, Bool.and_true]

theorem ofSeconds_seconds {time : TimeOfDay} (h : time.isValid = true) :
    ofSeconds time.seconds = time := by
  simp only [isValid, Bool.and_eq_true, decide_eq_true_eq] at h
  obtain ⟨hour, minute, second⟩ := time
  simp only [seconds, ofSeconds, TimeOfDay.mk.injEq]
  simp only at h
  omega

/-- The hour on a clock face, from 1 to 12. -/
def clockHour (time : TimeOfDay) : Nat := if time.hour % 12 = 0 then 12 else time.hour % 12

def isAfternoon (time : TimeOfDay) : Bool := 12 ≤ time.hour

end TimeOfDay

/-- The number of seconds from the start of 1970 to a time on a date. -/
def timestamp (date : CalendarDate) (time : TimeOfDay) : Int :=
  86400 * date.dayNumber + time.seconds

/-- The date and the time a number of seconds after the start of 1970. -/
def ofTimestamp (seconds : Int) : CalendarDate × TimeOfDay :=
  (.ofDayNumber (seconds / 86400), .ofSeconds (seconds % 86400).toNat)

end FormRules.Date
