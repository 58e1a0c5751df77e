import FormRules.Text.Property

/-!
# Graphemes

Where a text falls into graphemes depends on the part that each character plays in them.
`GraphemeBreak.ofChar` tells the part; syllables of the Korean script are told by counting.

The table is that of Unicode 16.0, as the `regex` library has it.
-/

namespace FormRules.Text

/-- The part of a character in graphemes. -/
inductive GraphemeBreak
  | carriageReturn
  | lineFeed
  | control
  | extend
  | zeroWidthJoiner
  | regionalIndicator
  /-- Belongs to what follows. -/
  | prepend
  /-- Belongs to what precedes, though it takes room. -/
  | spacingMark
  | leadingJamo
  | vowelJamo
  | trailingJamo
  /-- A syllable that ends in its vowel. -/
  | openSyllable
  /-- A syllable that ends in a consonant. -/
  | closedSyllable
  | other
  deriving DecidableEq, Repr, Inhabited

namespace GraphemeBreak

/-- Letters that belong to what follows. -/
def prependedLetters : Runs Bool := Runs.ofRanges
  "D4E 111C2-111C3 113D1 1193F 11941 11A3A 11A84-11A89 11D46 11F02"

/-- Marks that take room and begin a grapheme of their own. -/
def freeMarks : Runs Bool := Runs.ofRanges
  "102B-102C 1038 1062-1064 1067-106D 1083 1087-108C 108F 109A-109C 1A61 1A63-1A64 AA7B AA7D
    11720-11721"

/-- Vowels that belong to what precedes without being marks. -/
def attachedVowels : Runs Bool := Runs.ofRanges
  "E33 EB3"

/-- Consonants that begin a syllable. -/
def leading : Runs Bool := Runs.ofRanges
  "1100-115F A960-A97C"

/-- Vowels in the middle of a syllable. -/
def vowels : Runs Bool := Runs.ofRanges
  "1160-11A7 D7B0-D7C6 16D63 16D67-16D6A"

/-- Consonants that end a syllable. -/
def trailing : Runs Bool := Runs.ofRanges
  "11A8-11FF D7CB-D7FB"

/-- Controls, and code points that would be ignored if they were assigned. -/
def isControl (c : Char) : Bool :=
  hasCategory [.lineSeparator, .paragraphSeparator, .control, .format] c ||
    (hasCategory [.unassigned] c && isDefaultIgnorable c)

/-- The part of a character in a composed syllable; there are twenty-eight for each pair of a
consonant and a vowel, the first of them without a consonant at its end. -/
def ofSyllable (index : Nat) : GraphemeBreak :=
  if index % 28 = 0 then openSyllable else closedSyllable

/-- The part of a character that plays none of those that the categories tell. -/
def ofLetter (code : Nat) : GraphemeBreak :=
  if attachedVowels.get code then spacingMark
  else if leading.get code then leadingJamo
  else if vowels.get code then vowelJamo
  else if trailing.get code then trailingJamo
  else if 0xAC00 ≤ code && code ≤ 0xD7A3 then ofSyllable (code - 0xAC00)
  else other

/-- The part that a character plays. -/
def ofChar (c : Char) : GraphemeBreak :=
  let code := c.toNat
  if c = '\r' then carriageReturn
  else if c = '\n' then lineFeed
  else if code = 0x200D then zeroWidthJoiner
  else if isRegionalIndicator c then regionalIndicator
  else if extendsGrapheme c || emojiModifier.get code then extend
  else if prependedMarks.get code || prependedLetters.get code then prepend
  else if isControl c then control
  else if hasCategory [.spacingMark] c && !freeMarks.get code then spacingMark
  else ofLetter code

/-- The parts by name, in lower case and without separators.  `other` has none: what plays no part
cannot be asked for. -/
def names : List (List String × GraphemeBreak) := [
  (["cr"], carriageReturn),
  (["lf"], lineFeed),
  (["cn", "control"], control),
  (["ex", "extend"], extend),
  (["zwj"], zeroWidthJoiner),
  (["ri", "regionalindicator"], regionalIndicator),
  (["pp", "prepend"], prepend),
  (["sm", "spacingmark"], spacingMark),
  (["l"], leadingJamo),
  (["v"], vowelJamo),
  (["t"], trailingJamo),
  (["lv"], openSyllable),
  (["lvt"], closedSyllable)]

/-- The part that a name selects. -/
def named? (name : String) : Option GraphemeBreak :=
  (names.find? fun entry => entry.1.contains name).map (·.2)

theorem ofSyllable_eq_open_iff (index : Nat) : ofSyllable index = openSyllable ↔ index % 28 = 0 := by
  unfold ofSyllable
  split
  · rename_i h
    exact ⟨fun _ => h, fun _ => rfl⟩
  · rename_i h
    exact ⟨fun he => GraphemeBreak.noConfusion he, fun he => absurd he h⟩

end GraphemeBreak

end FormRules.Text
