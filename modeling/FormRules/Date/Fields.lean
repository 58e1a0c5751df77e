import FormRules.Date.Calendar

/-!
# Fields read from a text

Reading a date fills fields one by one.  A field takes only values in its range, and a second value
for the same field has to agree with the first.  `Fields.date?`, `Fields.time?` and
`Fields.dateTime?` put the fields together.

Embeds `Parsed` of `chrono`.
-/

namespace FormRules.Date

/-- Why fields do not make up a date or a time. -/
inductive FieldError
  /-- A value does not fit into its field, or no such day exists. -/
  | outOfRange
  /-- Two values contradict each other. -/
  | impossible
  /-- A field is missing. -/
  | notEnough
  deriving DecidableEq, Repr

/-- The fields of a date and a time, as far as they are known. -/
structure Fields where
  year : Option Int := none
  /-- The last two digits of the year. -/
  shortYear : Option Nat := none
  month : Option Nat := none
  day : Option Nat := none
  /-- The day of the week, from 0 for Monday on. -/
  weekday : Option Nat := none
  afternoon : Option Bool := none
  /-- The hour after midnight or noon. -/
  halfDayHour : Option Nat := none
  minute : Option Nat := none
  second : Option Nat := none
  timestamp : Option Int := none
  deriving DecidableEq, Repr

namespace Fields

/-- The value of a field after setting it: a value that is there already has to be the same. -/
def agree {α : Type} [DecidableEq α] (old : Option α) (new : α) : Except FieldError (Option α) :=
  match old with
  | none => .ok (some new)
  | some value => if value = new then .ok (some new) else .error .impossible

/-- Sets the year. -/
def setYear (fields : Fields) (value : Int) : Except FieldError Fields :=
  if -2147483648 ≤ value ∧ value ≤ 2147483647 then
    (agree fields.year value).map fun year => { fields with year }
  else .error .outOfRange

/-- Sets the last two digits of the year. -/
def setShortYear (fields : Fields) (value : Int) : Except FieldError Fields :=
  if 0 ≤ value ∧ value < 100 then
    (agree fields.shortYear value.toNat).map fun shortYear => { fields with shortYear }
  else .error .outOfRange

/-- Sets the month. -/
def setMonth (fields : Fields) (value : Int) : Except FieldError Fields :=
  if 1 ≤ value ∧ value ≤ 12 then
    (agree fields.month value.toNat).map fun month => { fields with month }
  else .error .outOfRange

/-- Sets the day of the month. -/
def setDay (fields : Fields) (value : Int) : Except FieldError Fields :=
  if 1 ≤ value ∧ value ≤ 31 then
    (agree fields.day value.toNat).map fun day => { fields with day }
  else .error .outOfRange

/-- Sets the day of the week. -/
def setWeekday (fields : Fields) (value : Nat) : Except FieldError Fields :=
  (agree fields.weekday value).map fun weekday => { fields with weekday }

/-- Sets whether the time is at noon or after. -/
def setAfternoon (fields : Fields) (value : Bool) : Except FieldError Fields :=
  (agree fields.afternoon value).map fun afternoon => { fields with afternoon }

/-- Sets the hour on a clock face. -/
def setClockHour (fields : Fields) (value : Int) : Except FieldError Fields :=
  if 1 ≤ value ∧ value ≤ 12 then
    (agree fields.halfDayHour (value.toNat % 12)).map fun halfDayHour => { fields with halfDayHour }
  else .error .outOfRange

/-- Sets the hour of the day. -/
def setHour (fields : Fields) (value : Int) : Except FieldError Fields :=
  if 0 ≤ value ∧ value ≤ 23 then
    match fields.setAfternoon (12 ≤ value) with
    | .error e => .error e
    | .ok fields =>
      (agree fields.halfDayHour (value.toNat % 12)).map fun halfDayHour =>
        { fields with halfDayHour }
  else .error .outOfRange

/-- Sets the minute. -/
def setMinute (fields : Fields) (value : Int) : Except FieldError Fields :=
  if 0 ≤ value ∧ value ≤ 59 then
    (agree fields.minute value.toNat).map fun minute => { fields with minute }
  else .error .outOfRange

/-- Sets the second; 60 stands for a leap second. -/
def setSecond (fields : Fields) (value : Int) : Except FieldError Fields :=
  if 0 ≤ value ∧ value ≤ 60 then
    (agree fields.second value.toNat).map fun second => { fields with second }
  else .error .outOfRange

/-- Sets the number of seconds since the start of 1970. -/
def setTimestamp (fields : Fields) (value : Int) : Except FieldError Fields :=
  (agree fields.timestamp value).map fun timestamp => { fields with timestamp }

theorem agree_eq_ok {α : Type} [DecidableEq α] {old new : Option α} {value : α}
    (h : agree old value = .ok new) : new = some value := by
  unfold agree at h
  split at h
  · exact (Except.ok.inj h).symm
  · split at h
    · exact (Except.ok.inj h).symm
    · exact nomatch h

/-! ### Putting fields together -/

/-- The year.  Two digits alone stand for 1970 to 2069; beside a year they have to be its last two,
and the year must not be negative. -/
def resolvedYear (fields : Fields) : Except FieldError (Option Int) :=
  match fields.year, fields.shortYear with
  | year, none => .ok year
  | some year, some short =>
    if 0 ≤ year ∧ year % 100 = short then .ok (some year) else .error .impossible
  | none, some short => .ok (some (short + (if short < 70 then 2000 else 1900)))

/-- The date.  It needs year, month and day, and a day of the week has to be the right one. -/
def date? (fields : Fields) : Except FieldError CalendarDate :=
  match fields.resolvedYear with
  | .error e => .error e
  | .ok year => match year, fields.month, fields.day with
    | some year, some month, some day =>
      let date : CalendarDate := ⟨year, month, day⟩
      if date.isValid then
        match fields.weekday with
        | none => .ok date
        | some weekday => if date.weekday = weekday then .ok date else .error .impossible
      else .error .outOfRange
    | _, _, _ => .error .notEnough

/-- The time.  It needs the hour and the minute; a missing second counts as 0. -/
def time? (fields : Fields) : Except FieldError TimeOfDay :=
  match fields.afternoon, fields.halfDayHour, fields.minute with
  | some afternoon, some hour, some minute =>
    let time : TimeOfDay := ⟨hour + (if afternoon then 12 else 0), minute, fields.second.getD 0⟩
    if time.isValid then .ok time else .error .outOfRange
  | _, _, _ => .error .notEnough

/-- Whether a date agrees with the fields that are known. -/
def allowsDate (fields : Fields) (date : CalendarDate) : Bool :=
  fields.year.getD date.year == date.year &&
    (match fields.shortYear with
      | none => true
      | some short => 0 ≤ date.year && date.year % 100 == short) &&
    fields.month.getD date.month == date.month && fields.day.getD date.day == date.day &&
    fields.weekday.getD date.weekday == date.weekday

/-- The date and the time that a timestamp stands for, if they agree with the fields. -/
def ofTimestamp? (fields : Fields) (seconds : Int) :
    Except FieldError (CalendarDate × TimeOfDay) :=
  let (date, time) := Date.ofTimestamp seconds
  if date.isValid then
    let consistent : Except FieldError Fields := do
      let fields ← fields.setSecond time.second
      let fields ← fields.setYear date.year
      let fields ← fields.setHour time.hour
      fields.setMinute time.minute
    match consistent with
    | .error e => .error e
    | .ok fields => if fields.allowsDate date then .ok (date, time) else .error .impossible
  else .error .outOfRange

/-- The date and the time.  A timestamp has to agree with them, and where one of the two is not
known completely it takes their place. -/
def dateTime? (fields : Fields) : Except FieldError (CalendarDate × TimeOfDay) :=
  match fields.date?, fields.time?, fields.timestamp with
  | .ok date, .ok time, none => .ok (date, time)
  | .ok date, .ok time, some seconds =>
    if seconds = Date.timestamp date time then .ok (date, time) else .error .impossible
  | .error e, _, none => .error e
  | .ok _, .error e, none => .error e
  | .error .outOfRange, _, some _ => .error .outOfRange
  | _, .error .outOfRange, some _ => .error .outOfRange
  | .error .impossible, _, some _ => .error .impossible
  | _, .error .impossible, some _ => .error .impossible
  | _, _, some seconds => fields.ofTimestamp? seconds

end Fields

end FormRules.Date
