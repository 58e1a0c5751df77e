import FormRules.Date.Fields
import FormRules.Date.Item
import FormRules.Number.Decimal
import FormRules.Text.Property

/-!
# Reading a text under a format

Reading is lenient: numbers may be shorter than they are written and may have blank characters in
front, blank items take any amount of blank characters, and names may be in either case.  What was
read is checked afterwards by writing it again.

Embeds `parse` of `chrono`.
-/

namespace FormRules.Date

open FormRules.Text

def monthNames : List String :=
  ["January", "February", "March", "April", "May", "June", "July", "August", "September",
    "October", "November", "December"]

/-- The days of the week. -/
def weekdayNames : List String :=
  ["Monday", "Tuesday", "Wednesday", "Thursday", "Friday", "Saturday", "Sunday"]

/-- The first three letters of a name. -/
def shortName (name : String) : List Char := name.toList.take 3

namespace Reading

/-- Reads up to `width` digits, at least one, as a number of 63 bits; `none` for no bound. -/
def number? (width : Option Nat) (s : List Char) : Option (Int × List Char) :=
  let digits := match width with
    | some width => (s.take width).takeWhile Char.isDigit
    | none => s.takeWhile Char.isDigit
  if digits.isEmpty then none
  else
    let value := Decimal.digitsValue 0 digits
    if value < 0x8000000000000000 then some (value, s.drop digits.length) else none

/-- Reads a number with an optional sign; the bound on its digits holds only without one. -/
def signedNumber? (width : Nat) (s : List Char) : Option (Int × List Char) :=
  match s with
  | '-' :: rest => (number? none rest).map fun (n, rest) => (-n, rest)
  | '+' :: rest => number? none rest
  | s => number? (some width) s

/-- Whether a text starts with a word in either case. -/
def startsWith (word s : List Char) : Bool :=
  word.length ≤ s.length &&
    (s.take word.length).map Char.toLower == word.map Char.toLower

/-- Reads the name of a list whose first three letters the text starts with, and the rest of the
name too where `long` asks for it and the text goes on with it; gives the place in the list. -/
def name? (names : List String) (long : Bool) (s : List Char) : Option (Nat × List Char) :=
  match names.findIdx? fun name => startsWith (shortName name) s with
  | none => none
  | some i =>
    let name := ((names[i]?).getD "").toList
    some (i, if long && startsWith name s then s.drop name.length else s.drop 3)

/-- Reads a component and enters it into the fields. -/
def component? (component : Component) (fields : Fields) (s : List Char) :
    Option (Fields × List Char) :=
  let enter (value : Option (Int × List Char)) (set : Int → Except FieldError Fields) :
      Option (Fields × List Char) :=
    match value with
    | none => none
    | some (n, rest) => match set n with
      | .ok fields => some (fields, rest)
      | .error _ => none
  let two := number? (some 2) (trimStart s)
  match component with
  | .year => enter (signedNumber? 4 (trimStart s)) fields.setYear
  | .shortYear => enter two fields.setShortYear
  | .month => enter two fields.setMonth
  | .day => enter two fields.setDay
  | .hour => enter two fields.setHour
  | .clockHour => enter two fields.setClockHour
  | .minute => enter two fields.setMinute
  | .second => enter two fields.setSecond
  | .timestamp => enter (number? none (trimStart s)) fields.setTimestamp
  | .monthName long =>
    enter ((name? monthNames long s).map fun (i, rest) => ((i : Int) + 1, rest)) fields.setMonth
  | .weekdayName long =>
    enter ((name? weekdayNames long s).map fun (i, rest) => ((i : Int), rest))
      fun n => fields.setWeekday n.toNat
  | .meridiem _ =>
    if startsWith ['a', 'm'] s then enter (some (0, s.drop 2)) fun _ => fields.setAfternoon false
    else if startsWith ['p', 'm'] s then
      enter (some (1, s.drop 2)) fun _ => fields.setAfternoon true
    else none

/-- Reads a text item by item; nothing may be left over. -/
def fields? : List Item → Fields → List Char → Option Fields
  | [], fields, s => if s.isEmpty then some fields else none
  | .literal text :: items, fields, s =>
    if text.isPrefixOf s then fields? items fields (s.drop text.length) else none
  | .blank _ :: items, fields, s => fields? items fields (trimStart s)
  | .field component _ :: items, fields, s => match component? component fields s with
    | some (fields, rest) => fields? items fields rest
    | none => none
  | .invalid :: _, _, _ => none

end Reading

end FormRules.Date
