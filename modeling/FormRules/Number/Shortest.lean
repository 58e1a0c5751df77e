import FormRules.Number.Binary64

/-!
# The shortest decimal that reads back

Of the decimals that round to a given magnitude, `shortestDigits` gives one with the fewest digits,
and among those the nearest.  For each number of digits the two neighbours of the magnitude on that
decimal grid are tried; the first grid with a hit wins.

The digits are those that the conversion of a number to a `Value` and the writer of `serde_json`
agree on.
-/

namespace FormRules.Binary64

-- Powers of natural numbers are those of core, also where Mathlib brings its own.
attribute [local instance (high)] instPowNat

/-- Which of two equally near decimals is taken. -/
inductive Tie
  /-- The one whose last digit is even. -/
  | toEven
  /-- The greater one. -/
  | up
  deriving DecidableEq, Repr

/-- A decimal magnitude: `digits * 10 ^ exponent`. -/
structure ShortDecimal where
  digits : Nat
  exponent : Int
  deriving DecidableEq, Repr

/-- The whole numbers `digits` with `digits * 10 ^ exponent` in the interval of a code are those
for which `digits * unit` lies between `low` and `high`, where `unit` stands for `10 ^ exponent`.
The ends belong to the interval if the code is even.  All three are in half units of
`2 ^ -1074` times a common power of ten. -/
structure Grid where
  low : Nat
  middle : Nat
  high : Nat
  unit : Nat
  closed : Bool

/-- The interval of a code on the grid of multiples of `10 ^ exponent`. -/
def gridOf (code : Nat) (exponent : Int) : Grid :=
  let scale := 10 ^ (-exponent).toNat
  ⟨(units (code - 1) + units code) * scale, 2 * units code * scale,
    (units code + units (code + 1)) * scale, 2 <<< 1074 * 10 ^ exponent.toNat, code % 2 == 0⟩

/-- Whether a point of the grid lies in the interval. -/
def Grid.contains (grid : Grid) (digits : Nat) : Bool :=
  let point := digits * grid.unit
  if grid.closed then grid.low ≤ point && point ≤ grid.high
  else grid.low < point && point < grid.high

/-- The nearest point of the grid that lies in the interval. -/
def Grid.nearest? (grid : Grid) (tie : Tie) : Option Nat :=
  let below := grid.middle / grid.unit
  let above := below + 1
  let fromBelow := grid.middle - below * grid.unit
  let toAbove := above * grid.unit - grid.middle
  match grid.contains below && below != 0, grid.contains above with
  | false, false => none
  | true, false => some below
  | false, true => some above
  | true, true =>
    if fromBelow < toAbove then some below
    else if toAbove < fromBelow then some above
    else match tie with
      | .toEven => some (if below % 2 = 0 then below else above)
      | .up => some above

/-- Counts down from an exponent to the first that a positive magnitude, given as a quotient,
reaches. -/
def leadingExponentFrom (num den : Nat) : Nat → Int → Int
  | 0, e => e
  | fuel + 1, e =>
    if den * 10 ^ e.toNat ≤ num * 10 ^ (-e).toNat then e
    else leadingExponentFrom num den fuel (e - 1)

/-- The exponent of the first decimal digit of a magnitude. -/
def leadingExponent (code : Nat) : Int :=
  let n := units code
  let estimate : Int := (((Nat.log2 n : Int) - 1074) * 30103) / 100000 + 1
  leadingExponentFrom n (1 <<< 1074) 5 estimate

/-- Tries grids with more and more digits. -/
def shortestFrom (code : Nat) (tie : Tie) (leading : Int) : Nat → Nat → ShortDecimal
  | 0, _ => ⟨0, 0⟩
  | fuel + 1, count =>
    let exponent := leading - (count : Int)
    match (gridOf code exponent).nearest? tie with
    | some digits => ⟨digits, exponent⟩
    | none => shortestFrom code tie leading fuel (count + 1)

/-- The shortest decimal that rounds to a positive finite magnitude. -/
def shortestDigits (code : Nat) (tie : Tie) : ShortDecimal :=
  shortestFrom code tie (leadingExponent code) 18 0

end FormRules.Binary64
