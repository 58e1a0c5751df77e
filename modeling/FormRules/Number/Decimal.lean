import FormRules.Number.Binary64

/-!
# Decimal numbers

A decimal literal denotes a whole number of digits times a power of ten.  `Decimal.read?` reads
one, and `Decimal.toBinary64` rounds it once, to the nearest floating-point number.
`Binary64.read?` reads literals and, besides, the words for what is not finite.

`Binary64.read?` is the `parse` that `parse_number` calls on a text: nearest, and the even one of
two.
-/

namespace FormRules

/-- A sign and a magnitude of `significand * 10 ^ exponent`. -/
structure Decimal where
  negative : Bool
  significand : Nat
  exponent : Int
  deriving DecidableEq, Repr

namespace Decimal

-- Powers of natural numbers are those of core, also where Mathlib brings its own.
attribute [local instance (high)] instPowNat

/-- The number that decimal digits denote, going on from `n`. -/
def digitsValue (n : Nat) (digits : List Char) : Nat :=
  digits.foldl (fun n d => 10 * n + (d.toNat - '0'.toNat)) n

/-- Reads an optional sign: whether it is a minus, and the text after it. -/
def readSign : List Char → Bool × List Char
  | '+' :: rest => (false, rest)
  | '-' :: rest => (true, rest)
  | s => (false, s)

/-- Reads the digits at the start of a text. -/
def readDigits (s : List Char) : List Char × List Char :=
  (s.takeWhile Char.isDigit, s.dropWhile Char.isDigit)

theorem readDigits_append (s : List Char) : (readDigits s).1 ++ (readDigits s).2 = s :=
  List.takeWhile_append_dropWhile

/-- Reads the exponent that ends a literal; no exponent counts as zero. -/
def readExponent? : List Char → Option Int
  | [] => some 0
  | e :: rest =>
    if e = 'e' ∨ e = 'E' then
      let (negative, rest) := readSign rest
      match readDigits rest with
      | ([], _) => none
      | (digits, []) =>
        let n : Int := digitsValue 0 digits
        some (if negative then -n else n)
      | _ => none
    else none

/-- Reads the digits after the point, if there is one. -/
def readFraction : List Char → List Char × List Char
  | '.' :: rest => readDigits rest
  | s => ([], s)

/-- Reads a decimal literal: a sign, digits with a point among or around them, an exponent. -/
def read? (s : List Char) : Option Decimal :=
  let (negative, rest) := readSign s
  let (whole, rest) := readDigits rest
  let (fraction, rest) := readFraction rest
  if whole.isEmpty && fraction.isEmpty then none
  else (readExponent? rest).map fun exponent =>
    ⟨negative, digitsValue 0 (whole ++ fraction), exponent - fraction.length⟩

/-- The nearest floating-point number.  A power of ten that is out of reach of the significand
gives zero or infinity without being computed. -/
def toBinary64 (d : Decimal) : Binary64 :=
  ⟨d.negative,
    if d.significand = 0 then 0
    else if 0 ≤ d.exponent then
      let e := d.exponent.toNat
      if 400 < e then Binary64.infinityCode else Binary64.nearestCode (d.significand * 10 ^ e) 1
    else
      let e := (-d.exponent).toNat
      if Nat.log2 d.significand + 400 < e then 0 else Binary64.nearestCode d.significand (10 ^ e)⟩

theorem toBinary64_negative (d : Decimal) : d.toBinary64.negative = d.negative := rfl

theorem toBinary64_code_le (d : Decimal) : d.toBinary64.code ≤ Binary64.infinityCode := by
  simp only [toBinary64]
  split
  · exact Nat.zero_le _
  · split
    · split
      · exact Nat.le_refl _
      · exact Binary64.nearestCode_le _ _
    · split
      · exact Nat.zero_le _
      · exact Binary64.nearestCode_le _ _

/-- A decimal never rounds to something that is no number. -/
theorem toBinary64_isNaN (d : Decimal) : d.toBinary64.isNaN = false := by
  have h := toBinary64_code_le d
  simp only [Binary64.isNaN, decide_eq_false_iff_not]
  omega

end Decimal

/-! ### The reader of floating-point numbers -/

namespace Binary64

/-- The magnitude that a word stands for, in any case of its letters. -/
def wordCode? (word : List Char) : Option Nat :=
  let lower := String.ofList (word.map Char.toLower)
  if lower = "inf" ∨ lower = "infinity" then some infinityCode
  else if lower = "nan" then some (infinityCode + leadingBit / 2)
  else none

/-- Reads a decimal literal or, after a sign, a word for infinity or for what is no number. -/
def read? (s : List Char) : Option Binary64 :=
  match Decimal.read? s with
  | some d => some d.toBinary64
  | none =>
    let (negative, word) := Decimal.readSign s
    (wordCode? word).map fun code => ⟨negative, code⟩

theorem read?_of_decimal {s : List Char} {d : Decimal} (h : Decimal.read? s = some d) :
    read? s = some d.toBinary64 := by rw [read?, h]

end Binary64

end FormRules
