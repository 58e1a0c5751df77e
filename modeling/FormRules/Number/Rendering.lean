import FormRules.Number.Shortest

/-!
# Numbers written as text

A floating-point number is written with the fewest digits that read back.  `plainText` never uses
an exponent and gives whole numbers no fraction; `documentText` is the form of data documents, with
a fraction on whole numbers and an exponent on the very large and the very small.

`plainText` is the text that the conversion of a number to a `Value` gives, and `documentText` the
one that `serde_json` gives, on which `from_json` relies.
-/

namespace FormRules.Binary64

/-- The digits of a decimal without the zeros at its end, and the exponent of its first digit. -/
structure Digits where
  digits : List Char
  leading : Int
  deriving Repr

/-- Drops the zeros at the end of a text. -/
def dropTrailingZeros (digits : List Char) : List Char :=
  (digits.reverse.dropWhile (· == '0')).reverse

/-- The digits of a positive finite magnitude. -/
def digitsOf (code : Nat) (tie : Tie) : Digits :=
  let short := shortestDigits code tie
  let all := Nat.toDigits 10 short.digits
  ⟨dropTrailingZeros all, short.exponent + all.length - 1⟩

/-- The part before the point and the part behind it. -/
def Digits.positional (d : Digits) : List Char × List Char :=
  if d.leading < 0 then
    (['0'], List.replicate (-d.leading - 1).toNat '0' ++ d.digits)
  else
    let count := d.leading.toNat + 1
    let whole := d.digits.take count
    (whole ++ List.replicate (count - whole.length) '0', d.digits.drop count)

def signText (x : Binary64) : String := if x.negative then "-" else ""

/-- A number without an exponent; whole numbers have no point. -/
def plainText (x : Binary64) : String :=
  if x.isNaN then "NaN"
  else if x.code = infinityCode then x.signText ++ "inf"
  else if x.code = 0 then x.signText ++ "0"
  else
    let (whole, fraction) := (digitsOf x.code .up).positional
    x.signText ++ String.ofList whole ++
      (if fraction.isEmpty then "" else "." ++ String.ofList fraction)

/-- A finite number in the form of data documents: from `1e-5` on and below `1e16` without an
exponent and always with a point, otherwise with a signed exponent. -/
def documentText (x : Binary64) : String :=
  if x.code = 0 then x.signText ++ "0.0"
  else
    let d := digitsOf x.code .toEven
    if -5 ≤ d.leading && d.leading < 16 then
      let (whole, fraction) := d.positional
      x.signText ++ String.ofList whole ++ "." ++
        (if fraction.isEmpty then "0" else String.ofList fraction)
    else
      let exponent := (if d.leading < 0 then "e-" else "e+") ++ toString d.leading.natAbs
      x.signText ++ String.ofList (d.digits.take 1) ++
        (if d.digits.length ≤ 1 then "" else "." ++ String.ofList (d.digits.drop 1)) ++ exponent

end FormRules.Binary64
