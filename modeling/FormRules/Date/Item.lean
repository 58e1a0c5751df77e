import FormRules.Text.Blank

/-!
# Formats in percent form

A format text mixes literal text with fields, each a percent sign with a letter, and with a hyphen
between them where the field is not padded.  `Item.ofFormat` reads such a text as a list of items.

Embeds `StrftimeItems` of `chrono` on the formats that `translate` makes.
-/

namespace FormRules.Date

open FormRules.Text

/-- A part of a date or a time that a format can show. -/
inductive Component
  | year
  /-- The last two digits of the year. -/
  | shortYear
  | month
  | day
  | hour
  /-- The hour on a clock face. -/
  | clockHour
  | minute
  | second
  | timestamp
  | monthName (long : Bool)
  | weekdayName (long : Bool)
  /-- Before or after noon. -/
  | meridiem (upper : Bool)
  deriving DecidableEq, Repr

/-- One item of a format. -/
inductive Item
  | literal (text : List Char)
  | blank (text : List Char)
  /-- A component; `padded` fills numbers up with zeros to their usual width. -/
  | field (component : Component) (padded : Bool)
  /-- A percent sign that starts no field. -/
  | invalid
  deriving DecidableEq, Repr

namespace Item

/-- The item that a letter after a percent sign stands for. -/
def ofLetter : Char → Option Item
  | 'Y' => some (.field .year true)
  | 'y' => some (.field .shortYear true)
  | 'm' => some (.field .month true)
  | 'd' => some (.field .day true)
  | 'H' => some (.field .hour true)
  | 'I' => some (.field .clockHour true)
  | 'M' => some (.field .minute true)
  | 'S' => some (.field .second true)
  | 's' => some (.field .timestamp false)
  | 'b' => some (.field (.monthName false) true)
  | 'B' => some (.field (.monthName true) true)
  | 'a' => some (.field (.weekdayName false) true)
  | 'A' => some (.field (.weekdayName true) true)
  | 'p' => some (.field (.meridiem true) true)
  | 'P' => some (.field (.meridiem false) true)
  | '%' => some (.literal ['%'])
  | _ => none

/-- The same item without padding; only numbers can do without. -/
def unpadded : Item → Item
  | .field (.monthName _) _ => .invalid
  | .field (.weekdayName _) _ => .invalid
  | .field (.meridiem _) _ => .invalid
  | .field component _ => .field component false
  | _ => .invalid

/-- Puts a character in front of a list of items; literal characters come together, and so do
blank ones. -/
def consChar (c : Char) (items : List Item) : List Item :=
  if isBlank c then
    match items with
    | .blank text :: rest => .blank (c :: text) :: rest
    | items => .blank [c] :: items
  else
    match items with
    | .literal text :: rest => .literal (c :: text) :: rest
    | items => .literal [c] :: items

/-- Reads a format.  A doubled percent sign stands for itself. -/
def ofFormat : List Char → List Item
  | [] => []
  | '%' :: '-' :: letter :: rest => ((ofLetter letter).map unpadded).getD .invalid :: ofFormat rest
  | '%' :: letter :: rest => (ofLetter letter).getD .invalid :: ofFormat rest
  | ['%'] => [.invalid]
  | c :: rest => consChar c (ofFormat rest)

end Item

end FormRules.Date
