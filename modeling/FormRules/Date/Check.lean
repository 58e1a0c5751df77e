import FormRules.Date.Pattern
import FormRules.Date.Writing

/-!
# Whether a value is a date

A value is a date under a pattern if, trimmed, it can be read and what was read is written back as
the very same text.  Components that the pattern lacks are taken from midnight on the first of
January 2000.

Embeds `is_date` (`isDateUnder`), `round_trip` (`readAndWrite`), `fill_defaults` (`completed`) and
the default formats `DEFAULT_DATE_FORMAT`, `DEFAULT_DATETIME_FORMAT` and `DEFAULT_TIME_FORMAT`
(`standardDatePattern` and the two behind it); specification, section 6.
-/

namespace FormRules

open FormRules.Date

namespace Date

def standardDatePattern : String := "Y-m-d"

def standardDateTimePattern : String := "Y-m-d H:i:s"

def standardTimePattern : String := "H:i:s"

/-- Sets a field where a condition asks for it. -/
def setWhen (condition : Bool) (set : Fields → Except FieldError Fields) (fields : Fields) :
    Except FieldError Fields :=
  if condition then set fields else .ok fields

/-- The fields with what the pattern does not carry.  A timestamp leaves nothing open, and a
pattern without a date or without a time asks for none. -/
def completed (components : Components) (fields : Fields) : Except FieldError Fields := do
  if components.timestamp then return fields
  let fields ← setWhen (components.concernsDate && !components.year) (·.setYear 2000) fields
  let fields ← setWhen (components.concernsDate && !components.month) (·.setMonth 1) fields
  let fields ← setWhen (components.concernsDate && !components.day) (·.setDay 1) fields
  let fields ← setWhen (components.concernsTime && !components.hour && !components.meridiem)
    (·.setHour 0) fields
  let fields ← setWhen (components.concernsTime && components.twelveHour && !components.meridiem)
    (·.setAfternoon false) fields
  setWhen (components.concernsTime && !components.minute) (·.setMinute 0) fields

/-- What the fields stand for, written under a format. -/
def render (components : Components) (items : List Item) (fields : Fields) : Option (List Char) :=
  match components.concernsDate, components.concernsTime with
  | true, true => match fields.dateTime? with
    | .ok (date, time) => Writing.text? (some date) (some time) items
    | .error _ => none
  | true, false => match fields.date? with
    | .ok date => Writing.text? (some date) none items
    | .error _ => none
  | false, true => match fields.time? with
    | .ok time => Writing.text? none (some time) items
    | .error _ => none
  | false, false => none

/-- Reads a text under a format and writes it again.  A leap second is not accepted. -/
def readAndWrite (components : Components) (items : List Item) (s : List Char) :
    Option (List Char) :=
  match Reading.fields? items {} s with
  | none => none
  | some fields =>
    if fields.second = some 60 then none
    else match completed components fields with
      | .ok fields => render components items fields
      | .error _ => none

end Date

/-- Whether a value, trimmed, is a date, a time or both under a pattern. -/
def isDateUnder (value pattern : String) : Bool :=
  let s := Text.trim value.toList
  match DatePattern.format? pattern.toList with
  | some (format, components) => readAndWrite components (Item.ofFormat format) s == some s
  | none => false

end FormRules
