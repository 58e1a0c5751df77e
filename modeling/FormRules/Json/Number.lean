import FormRules.Number.Decimal
import FormRules.Number.Rendering

/-!
# Numbers of JSON texts

A number without fraction and exponent that fits in 64 bits, signed or unsigned, is kept exactly.
Every other number becomes a floating-point number, and it does so in steps: digits are gathered
as long as the significand fits in 64 bits, the significand is rounded, and the result is multiplied
with or divided by a rounded power of ten.

Embeds the `Number` of `serde_json` with its default features.
-/

namespace FormRules

inductive JsonNumber where
  | integer (n : Int)
  | float (x : Binary64)
  deriving DecidableEq, Repr

def JsonNumber.text : JsonNumber → String
  | .integer n => toString n
  | .float x => x.documentText

/-- A number as it stands in a JSON text.  The parts hold decimal digits; no fraction is an empty
one. -/
structure NumberLiteral where
  negative : Bool
  whole : List Char
  fraction : List Char
  exponent : Option Int
  deriving DecidableEq, Repr

namespace NumberLiteral

-- Powers of natural numbers are those of core, also where Mathlib brings its own.
attribute [local instance (high)] instPowNat

/-! ### Reading -/

/-- Reads the whole part: a single zero, or digits that do not start with zero. -/
def readWhole? : List Char → Option (List Char × List Char)
  | [] => none
  | c :: rest =>
    if c = '0' then
      match rest with
      | [] => some (['0'], [])
      | d :: rest => if d.isDigit then none else some (['0'], d :: rest)
    else if c.isDigit then some (c :: rest.takeWhile Char.isDigit, rest.dropWhile Char.isDigit)
    else none

/-- Reads a fraction, if a point begins one; it has at least one digit. -/
def readFraction? : List Char → Option (List Char × List Char)
  | [] => some ([], [])
  | c :: rest =>
    if c = '.' then
      match Decimal.readDigits rest with
      | ([], _) => none
      | (d :: digits, rest) => some (d :: digits, rest)
    else some ([], c :: rest)

/-- Reads an exponent, if a letter begins one; it has at least one digit. -/
def readExponent? : List Char → Option (Option Int × List Char)
  | [] => some (none, [])
  | c :: rest =>
    if c = 'e' ∨ c = 'E' then
      let (negative, rest) := Decimal.readSign rest
      match Decimal.readDigits rest with
      | ([], _) => none
      | (d :: digits, rest) =>
        let n : Int := Decimal.digitsValue 0 (d :: digits)
        some (some (if negative then -n else n), rest)
    else some (none, c :: rest)

/-- Reads an optional minus sign. -/
def readMinus : List Char → Bool × List Char
  | [] => (false, [])
  | c :: rest => if c = '-' then (true, rest) else (false, c :: rest)

/-- Reads a number at the start of a text. -/
def read? (s : List Char) : Option (NumberLiteral × List Char) := do
  let (negative, s) := readMinus s
  let (whole, s) ← readWhole? s
  let (fraction, s) ← readFraction? s
  let (exponent, s) ← readExponent? s
  return (⟨negative, whole, fraction, exponent⟩, s)

/-! ### Value -/

/-- Goes on with a significand as long as it fits in 64 bits; also gives the digits left over. -/
def gather (significand : Nat) : List Char → Nat × List Char
  | [] => (significand, [])
  | d :: rest =>
    let next := Decimal.digitsValue significand [d]
    if next < 0x10000000000000000 then gather next rest else (significand, d :: rest)

/-- The greatest power of ten that is a finite floating-point number. -/
def maxPower : Nat := 308

def powerCode (e : Nat) : Nat := Binary64.nearestCode (10 ^ e) 1

/-- A magnitude divided by a power of ten, in steps of at most `maxPower`. -/
def divPower (code : Nat) (e : Nat) : Nat :=
  if e ≤ maxPower then Binary64.divCode code (powerCode e)
  else if code = 0 then 0
  else divPower (Binary64.divCode code (powerCode maxPower)) (e - maxPower)
termination_by e
decreasing_by
  simp only [maxPower] at *
  omega

/-- A magnitude times a power of ten; `none` where that is not finite. -/
def mulPower? (code : Nat) (e : Nat) : Option Nat :=
  if code = 0 then some 0
  else if e ≤ maxPower then
    let product := Binary64.mulCode code (powerCode e)
    if product < Binary64.infinityCode then some product else none
  else none

/-- The floating-point number of a literal; `none` where it is too large. -/
def float? (literal : NumberLiteral) : Option Binary64 :=
  let (significand, dropped) := gather 0 literal.whole
  let (significand, unused) := gather significand literal.fraction
  let exponent : Int := literal.exponent.getD 0 + dropped.length -
    (literal.fraction.length - unused.length : Nat)
  let code := Binary64.nearestCode significand 1
  if 0 ≤ exponent then
    (mulPower? code exponent.toNat).map fun code => ⟨literal.negative, code⟩
  else some ⟨literal.negative, divPower code (-exponent).toNat⟩

/-- The number of a literal; `none` where it is too large. -/
def value? (literal : NumberLiteral) : Option JsonNumber :=
  let n := Decimal.digitsValue 0 literal.whole
  if literal.fraction.isEmpty && literal.exponent.isNone then
    if literal.negative then
      if n ≠ 0 ∧ n ≤ 0x8000000000000000 then some (.integer (-n)) else literal.float?.map .float
    else if n < 0x10000000000000000 then some (.integer n)
    else literal.float?.map .float
  else literal.float?.map .float

end NumberLiteral

end FormRules
