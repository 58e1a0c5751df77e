import FormRules.Number.Decimal
import FormRules.Pattern.Positions
import FormRules.Text.Blank

/-!
# Numbers as text

A value is numeric when, trimmed, it is a decimal literal: an optional sign, digits with an
optional fraction or a bare fraction, and an optional exponent.  `numberOf?` hands the literals
over to the reader of floating-point numbers, and the sign predicates compare the result with zero.

Embeds `parse_number` (`numberOf?`), `is_number` (`isNumeric`), `is_number_positive`
(`isNonnegative`), `is_number_negative` (`isNonpositive`), `is_number_nonzero` (`isNonzero`) and
`NUMBER_REGEX` (`Numeral.grammar`); specification, section 6.
-/

namespace FormRules

open FormRules.Text FormRules.Pattern

namespace Numeral

/-- One ASCII digit. -/
def digit : Regex := .chars (.range '0' '9')

def sign : Regex := .optional (.chars (.ofList ['+', '-']))

/-- The grammar of decimal literals. -/
def grammar : Regex :=
  .seqs [sign,
    .alt (.seq (.plus digit) (.optional (.seq (.char '.') (.star digit))))
      (.seq (.char '.') (.plus digit)),
    .optional (.seqs [.chars (.ofList ['e', 'E']), sign, .plus digit])]

end Numeral

/-- The floating-point number nearest to the decimal literal that a value is when trimmed. -/
def numberOf? (value : String) : Option Binary64 :=
  let s := trim value.toList
  if Numeral.grammar.matchesWhole s then Binary64.read? s else none

def isNumeric (value : String) : Bool := (numberOf? value).isSome

/-- Whether a value is a number of at least zero. -/
def isNonnegative (value : String) : Bool :=
  (numberOf? value).any fun x => Binary64.zero.le x

/-- Whether a value is a number of at most zero. -/
def isNonpositive (value : String) : Bool :=
  (numberOf? value).any fun x => x.le Binary64.zero

def isNonzero (value : String) : Bool := (numberOf? value).any fun x => !x.isZero

end FormRules
