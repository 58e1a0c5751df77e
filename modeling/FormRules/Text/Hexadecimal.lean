/-!
# Hexadecimal digits

The number that a digit or a run of digits denotes; letters may be upper-case or lower-case.

The digits are those of escapes in JSON, TOML and patterns.
-/

namespace FormRules.Text

/-- The number that an upper-case or lower-case hexadecimal digit denotes. -/
def hexDigit? (c : Char) : Option Nat :=
  if '0' ≤ c && c ≤ '9' then some (c.toNat - '0'.toNat)
  else if 'a' ≤ c && c ≤ 'f' then some (c.toNat - 'a'.toNat + 10)
  else if 'A' ≤ c && c ≤ 'F' then some (c.toNat - 'A'.toNat + 10)
  else none

/-- The number that a run of hexadecimal digits denotes; other characters are passed over. -/
def hexValue (digits : List Char) : Nat :=
  digits.foldl (fun n c => match hexDigit? c with | some d => 16 * n + d | none => n) 0

end FormRules.Text
