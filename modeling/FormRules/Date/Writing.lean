import FormRules.Date.Reading

/-!
# Writing a date under a format

Writing is strict: every component has one form.  Years outside 0 to 9999 carry their sign.  A
component of a date cannot be written where only a time is known, nor the other way round.

Embeds `DelayedFormat` of `chrono`, which `round_trip` writes with.
-/

namespace FormRules.Date

namespace Writing

def decimal (n : Nat) : List Char := Nat.toDigits 10 n

/-- A number with zeros in front up to a width. -/
def padded (width n : Nat) : List Char :=
  List.replicate (width - (decimal n).length) '0' ++ decimal n

/-- A number of up to two digits. -/
def two (pad : Bool) (n : Nat) : List Char := if pad then padded 2 n else decimal n

/-- A year: four digits at least, and with its sign outside 0 to 9999. -/
def year (pad : Bool) (n : Int) : List Char :=
  let sign := if n < 0 then ['-'] else if n < 10000 then [] else ['+']
  sign ++ (if pad then padded 4 n.natAbs else decimal n.natAbs)

/-- A whole number with a minus where it is negative. -/
def integer (n : Int) : List Char := (if n < 0 then ['-'] else []) ++ decimal n.natAbs

/-- A name in full or its first three letters. -/
def name (names : List String) (long : Bool) (i : Nat) : List Char :=
  let full := (names[i]?).getD ""
  if long then full.toList else shortName full

/-- A component of a date or a time, as far as they are known. -/
def component? (date : Option CalendarDate) (time : Option TimeOfDay) (pad : Bool) :
    Component → Option (List Char)
  | .year => date.map fun d => year pad d.year
  | .shortYear => date.map fun d => two pad (d.year % 100).toNat
  | .month => date.map fun d => two pad d.month
  | .day => date.map fun d => two pad d.day
  | .hour => time.map fun t => two pad t.hour
  | .clockHour => time.map fun t => two pad t.clockHour
  | .minute => time.map fun t => two pad t.minute
  | .second => time.map fun t => two pad t.second
  | .timestamp => match date, time with
    | some d, some t => some (integer (Date.timestamp d t))
    | _, _ => none
  | .monthName long => date.map fun d => name monthNames long (d.month - 1)
  | .weekdayName long => date.map fun d => name weekdayNames long d.weekday
  | .meridiem upper => time.map fun t =>
      match t.isAfternoon, upper with
      | false, false => ['a', 'm']
      | false, true => ['A', 'M']
      | true, false => ['p', 'm']
      | true, true => ['P', 'M']

/-- A date or a time under a format. -/
def text? (date : Option CalendarDate) (time : Option TimeOfDay) : List Item → Option (List Char)
  | [] => some []
  | .literal text :: items => (text? date time items).map fun rest => text ++ rest
  | .blank text :: items => (text? date time items).map fun rest => text ++ rest
  | .field component pad :: items =>
    match component? date time pad component, text? date time items with
    | some first, some rest => some (first ++ rest)
    | _, _ => none
  | .invalid :: _ => none

end Writing

end FormRules.Date
