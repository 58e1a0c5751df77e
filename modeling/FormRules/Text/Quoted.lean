import FormRules.Text.Property

/-!
# Characters in single quotes

Error messages show a character in single quotes.  A quote, a backslash and the common controls
are written with a backslash, and what has no shape of its own as a code point in braces.

Embeds the quoted form in which the messages of `PatternError` show a delimiter or a modifier.
-/

namespace FormRules.Text

/-- A code point as `u` with its hexadecimal digits in braces, after a backslash. -/
def codePoint (c : Char) : String :=
  "\\u\x7b" ++ String.ofList (Nat.toDigits 16 c.toNat) ++ "\x7d"

/-- A character as it is written between quotes. -/
def escapeChar (c : Char) : String :=
  match c with
  | '\x00' => "\\0"
  | '\t' => "\\t"
  | '\r' => "\\r"
  | '\n' => "\\n"
  | '\'' => "\\'"
  | '\\' => "\\\\"
  | c => if isPrintable c && !extendsGrapheme c then String.singleton c else codePoint c

def quoteChar (c : Char) : String := "'" ++ escapeChar c ++ "'"

end FormRules.Text
