import FormRules.Date.Item

/-!
# Date patterns

Forms describe dates with single letters, such as `Y-m-d`.  `DatePattern.format?` turns such a
pattern into a format in percent form and notes which components it carries; `letterFormat` is the
table of letters.  A backslash makes the next character literal.

Embeds `translate` (`DatePattern.format?`), `push_literal` (`literalFormat`), `UNSUPPORTED_LETTERS`
(`isReservedLetter`) and `Layout` (`Components`) with `has_date` (`concernsDate`) and `has_time`
(`concernsTime`); specification, section 6.
-/

namespace FormRules.Date

/-- Which components a pattern carries. -/
structure Components where
  year : Bool := false
  month : Bool := false
  day : Bool := false
  hour : Bool := false
  /-- The hour is one on a clock face. -/
  twelveHour : Bool := false
  meridiem : Bool := false
  minute : Bool := false
  timestamp : Bool := false
  deriving DecidableEq, Repr

namespace Components

/-- Whether the pattern is about a date. -/
def concernsDate (components : Components) : Bool :=
  components.year || components.month || components.day || components.timestamp

/-- Whether the pattern is about a time. -/
def concernsTime (components : Components) : Bool :=
  components.hour || components.minute || components.meridiem || components.timestamp

/-- The components with one more pattern letter. -/
def add (components : Components) (letter : Char) : Components :=
  if letter = 'Y' ∨ letter = 'y' then { components with year := true }
  else if letter = 'm' ∨ letter = 'n' ∨ letter = 'M' ∨ letter = 'F' then
    { components with month := true }
  else if letter = 'd' ∨ letter = 'j' then { components with day := true }
  else if letter = 'H' ∨ letter = 'G' then { components with hour := true }
  else if letter = 'h' ∨ letter = 'g' then { components with hour := true, twelveHour := true }
  else if letter = 'i' then { components with minute := true }
  else if letter = 'A' ∨ letter = 'a' then { components with meridiem := true }
  else if letter = 'U' then { components with timestamp := true }
  else components

end Components

/-- The field in percent form that a pattern letter stands for. -/
def letterFormat : Char → Option (List Char)
  | 'Y' => some ['%', 'Y']
  | 'y' => some ['%', 'y']
  | 'm' => some ['%', 'm']
  | 'n' => some ['%', '-', 'm']
  | 'M' => some ['%', 'b']
  | 'F' => some ['%', 'B']
  | 'd' => some ['%', 'd']
  | 'j' => some ['%', '-', 'd']
  | 'D' => some ['%', 'a']
  | 'l' => some ['%', 'A']
  | 'H' => some ['%', 'H']
  | 'G' => some ['%', '-', 'H']
  | 'h' => some ['%', 'I']
  | 'g' => some ['%', '-', 'I']
  | 'i' => some ['%', 'M']
  | 's' => some ['%', 'S']
  | 'A' => some ['%', 'p']
  | 'a' => some ['%', 'P']
  | 'U' => some ['%', 's']
  | _ => none

/-- The letters that are set aside: they have a meaning elsewhere, and no pattern may use them. -/
def isReservedLetter (c : Char) : Bool := "NSwzWLoXxBuveIOPpTZcr".toList.contains c

def literalFormat (c : Char) : List Char := if c = '%' then ['%', '%'] else [c]

namespace DatePattern

/-- The format for a pattern, and the given components with those of its letters; `none` where the
pattern uses a reserved letter or ends in a lone backslash. -/
def formatFrom? (components : Components) : List Char → Option (List Char × Components)
  | [] => some ([], components)
  | ['\\'] => none
  | '\\' :: c :: rest =>
    (formatFrom? components rest).map fun (format, components) =>
      (literalFormat c ++ format, components)
  | c :: rest => match letterFormat c with
    | some field =>
      (formatFrom? (components.add c) rest).map fun (format, components) =>
        (field ++ format, components)
    | none =>
      if isReservedLetter c then none
      else (formatFrom? components rest).map fun (format, components) =>
        (literalFormat c ++ format, components)

def format? (pattern : List Char) : Option (List Char × Components) := formatFrom? {} pattern

end DatePattern

end FormRules.Date
