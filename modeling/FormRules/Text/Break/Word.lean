import FormRules.Text.Property
import FormRules.Text.Script

/-!
# Words

Where a text falls into words depends on the part that each character plays in them.
`WordBreak.ofChar` tells the part.

The table is that of Unicode 16.0, as the `regex` library has it.
-/

namespace FormRules.Text

/-- The part of a character in words. -/
inductive WordBreak
  | carriageReturn
  | lineFeed
  | newline
  | extend
  | zeroWidthJoiner
  | regionalIndicator
  | format
  | katakana
  | hebrewLetter
  | letter
  | singleQuote
  | doubleQuote
  /-- Stands between letters and between digits. -/
  | midNumberOrLetter
  /-- Stands between letters. -/
  | midLetter
  /-- Stands between digits. -/
  | midNumber
  | numeric
  /-- Joins letters, digits and its like. -/
  | connector
  | space
  | other
  deriving DecidableEq, Repr, Inhabited

namespace WordBreak

/-- Marks and symbols that go with the Katakana letters. -/
def katakanaSigns : Runs Bool := Runs.ofRanges
  "3031-3035 309B-309C 30A0 30FC FF70"

/-- Signs that stand in words as letters do. -/
def letterSigns : Runs Bool := Runs.ofRanges
  "2C2-2C5 2D2-2D7 2DE-2DF 2E5-2EB 2ED 2EF-2FF 55A-55C 55E 58A 5F3 70F A708-A716 A720-A721 A789-A78A
    AB5B"

/-- Letters of scripts that leave no space between words. -/
def unspacedLetters : Runs Bool := Runs.ofRanges
  "E01-E30 E32-E33 E40-E46 E81-E82 E84 E86-E8A E8C-EA3 EA5 EA7-EB0 EB2-EB3 EBD EC0-EC4 EC6 EDC-EDF
    1000-102A 103F 1050-1055 105A-105D 1061 1065-1066 106E-1070 1075-1081 108E 1780-17B3 17D7 17DC
    1950-196D 1970-1974 1980-19AB 19B0-19C9 1A20-1A54 1AA7 A9E0-A9E4 A9E6-A9EF A9FA-A9FE AA60-AA76
    AA7A AA7E-AAAF AAB1 AAB5-AAB6 AAB9-AABD AAC0 AAC2 AADB-AADD 11700-1171A 11740-11746"

/-- Signs that stand in numbers without being decimal digits. -/
def numberSigns : Runs Bool := Runs.ofRanges
  "600-605 66B 6DD 890-891 8E2 19DA 110BD 110CD"

def betweenLetters : Runs Bool := Runs.ofRanges
  "3A B7 387 55F 5F4 2027 FE13 FE55 FF1A"

def betweenDigits : Runs Bool := Runs.ofRanges
  "2C 3B 37E 589 60C-60D 66C 7F8 2044 FE50 FE54 FF0C FF1B"

/-- Punctuation between letters and between digits. -/
def betweenEither : Runs Bool := Runs.ofRanges
  "2E 2018-2019 2024 FE52 FF07 FF0E"

/-- Whether a character is a letter of a script whose words are told apart by spaces. -/
def isSpacedLetter (c : Char) : Bool :=
  letterSigns.get c.toNat || (isAlphabetic c && !ideographic.get c.toNat &&
    Script.ofChar c != ⟨"Hira"⟩ && !unspacedLetters.get c.toNat)

/-- Whether a character is a space at which a line may be broken. -/
def isBreakingSpace (c : Char) : Bool :=
  hasCategory [.spaceSeparator] c && c.toNat != 0xA0 && c.toNat != 0x2007 && c.toNat != 0x202F

/-- The part of a character that is not a letter, a digit or a mark. -/
def ofSign (c : Char) : WordBreak :=
  let code := c.toNat
  if c = '\'' then singleQuote
  else if c = '"' then doubleQuote
  else if betweenEither.get code then midNumberOrLetter
  else if betweenLetters.get code then midLetter
  else if betweenDigits.get code then midNumber
  else if hasCategory [.format] c && code != 0x200B then format
  else if hasCategory [.connectorPunctuation] c || code = 0x202F then connector
  else if isBreakingSpace c then space
  else other

/-- The part that a character plays. -/
def ofChar (c : Char) : WordBreak :=
  let code := c.toNat
  if c = '\r' then carriageReturn
  else if c = '\n' then lineFeed
  else if code = 0xB || code = 0xC || code = 0x85 || code = 0x2028 || code = 0x2029 then newline
  else if code = 0x200D then zeroWidthJoiner
  else if isRegionalIndicator c then regionalIndicator
  else if extendsGrapheme c || emojiModifier.get code || hasCategory [.spacingMark] c then extend
  else if Script.ofChar c == ⟨"Kana"⟩ || katakanaSigns.get code then katakana
  else if Script.ofChar c == ⟨"Hebr"⟩ && hasCategory [.otherLetter] c then hebrewLetter
  else if isDecimalDigit c || numberSigns.get code then numeric
  else if isSpacedLetter c then letter
  else ofSign c

/-- The parts by name, in lower case and without separators. -/
def names : List (List String × WordBreak) := [
  (["cr"], carriageReturn),
  (["lf"], lineFeed),
  (["nl", "newline"], newline),
  (["extend"], extend),
  (["zwj"], zeroWidthJoiner),
  (["ri", "regionalindicator"], regionalIndicator),
  (["fo", "format"], format),
  (["ka", "katakana"], katakana),
  (["hl", "hebrewletter"], hebrewLetter),
  (["le", "aletter"], letter),
  (["sq", "singlequote"], singleQuote),
  (["dq", "doublequote"], doubleQuote),
  (["mb", "midnumlet"], midNumberOrLetter),
  (["ml", "midletter"], midLetter),
  (["mn", "midnum"], midNumber),
  (["nu", "numeric"], numeric),
  (["ex", "extendnumlet"], connector),
  (["wsegspace"], space)]

/-- The part that a name selects. -/
def named? (name : String) : Option WordBreak :=
  (names.find? fun entry => entry.1.contains name).map (·.2)

end WordBreak

end FormRules.Text
