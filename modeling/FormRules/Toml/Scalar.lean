import FormRules.Text.Hexadecimal
import FormRules.Toml.Basic

/-!
# Numbers, truth values and dates of TOML documents

A scalar that is no string is a run of characters; `readScalar?` tells what it stands for.  Digits
may be grouped by single underscores between them.

Embeds the scalars of `toml`, TOML 1.1.
-/

namespace FormRules.Toml

open FormRules.Text

/-- The digits of a group without the underscores; `none` where an underscore does not stand
between two digits or there is no digit. -/
def ungroup? (isDigit : Char → Bool) : (afterDigit : Bool) → List Char → Option (List Char)
  | afterDigit, [] => if afterDigit then some [] else none
  | afterDigit, c :: s =>
    if isDigit c then (ungroup? isDigit true s).map (c :: ·)
    else if c = '_' ∧ afterDigit = true then ungroup? isDigit false s
    else none

/-- Digits without underscores. -/
def digits? (s : List Char) : Option (List Char) := ungroup? Char.isDigit false s

/-- Digits of a whole part, which start with zero only if they are nothing else. -/
def wholeDigits? (s : List Char) : Option (List Char) :=
  match digits? s with
  | some ['0'] => some ['0']
  | some ('0' :: _) => none
  | other => other

/-- The number of a whole text of digits of a base up to sixteen. -/
def readBase? (base : Nat) (s : List Char) : Option Int :=
  (ungroup? (fun c => (hexDigit? c).any (· < base)) false s).map fun digits =>
    ((digits.foldl (fun n c => base * n + (hexDigit? c).getD 0) 0 : Nat) : Int)

/-- Reads a whole number: in decimal digits with an optional sign, or in another base after a zero
and a letter. -/
def readInteger? (s : List Char) : Option Int :=
  match s with
  | '0' :: 'x' :: rest => readBase? 16 rest
  | '0' :: 'o' :: rest => readBase? 8 rest
  | '0' :: 'b' :: rest => readBase? 2 rest
  | _ =>
    let (negative, rest) := Decimal.readSign s
    (wholeDigits? rest).map fun digits =>
      let n : Int := Decimal.digitsValue 0 digits
      if negative then -n else n

def isExponentMark (c : Char) : Bool := c == 'e' || c == 'E'

/-- Reads the exponent that ends a number. -/
def readExponent? : List Char → Option Int
  | [] => some 0
  | c :: s =>
    if isExponentMark c then
      let (negative, s) := Decimal.readSign s
      (digits? s).map fun digits =>
        let n : Int := Decimal.digitsValue 0 digits
        if negative then -n else n
    else none

/-- Reads the fraction after a whole part, if a point begins one. -/
def readFraction? : List Char → Option (List Char × List Char)
  | [] => some ([], [])
  | c :: s =>
    if c = '.' then
      (digits? (s.takeWhile fun c => !isExponentMark c)).map fun digits =>
        (digits, s.dropWhile fun c => !isExponentMark c)
    else some ([], c :: s)

def endsWhole (c : Char) : Bool := c == '.' || isExponentMark c

/-- Reads a floating-point number. -/
def readFloat? (s : List Char) : Option TomlFloat :=
  let (negative, s) := Decimal.readSign s
  if s = ['i', 'n', 'f'] then some (.infinity negative)
  else if s = ['n', 'a', 'n'] then some .nan
  else do
    let whole ← wholeDigits? (s.takeWhile fun c => !endsWhole c)
    let (fraction, rest) ← readFraction? (s.dropWhile fun c => !endsWhole c)
    let exponent ← readExponent? rest
    return .decimal ⟨negative, Decimal.digitsValue 0 (whole ++ fraction),
      exponent - fraction.length⟩

/-- Reads a whole text as a truth value, a number, a date or a time. -/
def readScalar? (s : List Char) : Option TomlValue :=
  if s = "true".toList then some (.bool true)
  else if s = "false".toList then some (.bool false)
  else match readInteger? s with
    | some n => some (.integer n)
    | none => match readFloat? s with
      | some x => some (.float x)
      | none => (TomlDatetime.read? s).map .datetime

end FormRules.Toml
