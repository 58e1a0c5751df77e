import FormRules.Color
import FormRules.Date.Check
import FormRules.Email
import FormRules.Pattern.Delimited
import FormRules.Plain
import FormRules.Rules.Rules
import FormRules.Url

/-!
# Judging values

Each known field type comes with a criterion that decides whether a value is good under some rules.
Of the rules it looks only at those that concern its type.

Embeds `evaluator_for` (`FieldType.criterion?`), `evaluate` (`Rules.accepts`) and the evaluators
`StringConstraint`, `NumberConstraint`, `EmailConstraint`, `UrlConstraint`, `ColorConstraint`,
`DateConstraint` and `ArrayConstraint` (`Criterion.accepts`); specification, section 4.3.
-/

namespace FormRules

/-- How the values of a type are judged. -/
inductive Criterion where
  | string
  | number
  | email
  | url
  | color
  /-- Dates and times, under the given pattern where the rules have none. -/
  | date (defaultFormat : String)
  | array
  deriving DecidableEq, Repr

namespace Criterion

/-- Text is good if it is not blank, matches the pattern of the rules, and has a number of
characters within bounds. -/
def acceptsString (text : String) (rules : Rules) : Bool :=
  hasText text &&
    rules.regex.all (fun pattern => Pattern.matchesPattern pattern.toList text.toList) &&
    rules.admits (.ofNat (charCount text))

/-- Numeric text is good if the number has the sign that the rules ask for and lies within
bounds. -/
def acceptsNumber (text : String) (rules : Rules) : Bool :=
  match numberOf? text with
  | none => false
  | some x =>
    !(rules.positive && x.lt .zero) && !(rules.negative && Binary64.zero.lt x) &&
      !(rules.nonzero && x.isZero) && rules.admits x

/-- A colour is good in the format of the rules, which is hexadecimal digits if they name none. -/
def acceptsColor (text : String) (rules : Rules) : Bool :=
  (ColorFormat.chosen rules.format).accepts text

/-- A date is good under the pattern of the rules, or else under the default. -/
def acceptsDate (defaultFormat text : String) (rules : Rules) : Bool :=
  isDateUnder text (rules.format.getD defaultFormat)

/-- A sequence is good if its number of items lies within bounds. -/
def acceptsItems (items : List Value) (rules : Rules) : Bool :=
  rules.admits (.ofNat items.length)

/-- Whether a value is good under some rules.  Arrays are sequences, and all else is scalar. -/
def accepts : Criterion → Value → Rules → Bool
  | .string, .scalar text, rules => acceptsString text rules
  | .number, .scalar text, rules => acceptsNumber text rules
  | .email, .scalar text, _ => isEmailAddress text
  | .url, .scalar text, _ => isWebAddress text
  | .color, .scalar text, rules => acceptsColor text rules
  | .date defaultFormat, .scalar text, rules => acceptsDate defaultFormat text rules
  | .array, .sequence items, rules => acceptsItems items rules
  | .array, .scalar _, _ => false
  | _, .sequence _, _ => false

end Criterion

/-- How values of a type are judged; there is no way for an unknown type. -/
def FieldType.criterion? : FieldType → Option Criterion
  | .string => some .string
  | .number => some .number
  | .email => some .email
  | .url => some .url
  | .color => some .color
  | .date => some (.date Date.standardDatePattern)
  | .dateTime => some (.date Date.standardDateTimePattern)
  | .time => some (.date Date.standardTimePattern)
  | .array => some .array
  | .unknown _ => none

/-- Whether a value is good under the rules, whether it is required or not. -/
def Rules.accepts (rules : Rules) (value : Value) : Bool :=
  rules.fieldType.criterion?.any fun criterion => criterion.accepts value rules

end FormRules
