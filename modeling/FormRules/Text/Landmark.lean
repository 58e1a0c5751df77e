import FormRules.Text.NamedProperty

/-!
# Where properties change

Every property that a pattern may name is put together from a number of tables, so it is constant
between two neighbouring code points of those at which one of the tables changes.  `landmarks` lists
them all: to know a set of characters it is enough to ask there.

The tables are those of Unicode 16.0, as the `regex` library has them.
-/

namespace FormRules.Text

/-- The code points at which the value in a table changes. -/
def Runs.changes {α : Type} (runs : Runs α) : List Nat := runs.cells.toList.map (·.1)

def propertyTables : List (Runs Bool) :=
  [otherLowercase, otherUppercase, otherAlphabetic, otherGraphemeExtend, midWord, otherMath,
    otherIdStart, notIdStart, otherIdContinue, notXidStart, notXidContinue, bidiControl,
    bidiMirrored, dash, otherDefaultIgnorable, visibleFormat, deprecatedChars, diacritic,
    emoji, emojiComponent, emojiModifier, emojiModifierBase, emojiPresentation,
    extendedPictographic, extender, hexDigits, ideographic, unifiedIdeograph,
    idsBinaryOperator, idsTrinaryOperator, logicalOrderException, patternMarks, patternBlank,
    quotationMark, radical, sentenceTerminal, softDotted, terminalPunctuation,
    variationSelector, prependedMarks, graphemeLink, modifierMarks, hyphen, mathIdStart,
    mathIdContinue, idsUnaryOperator, georgianSmall, georgianCapital, changesInCapitals,
    capitalDigraph, foldedSmall, foldedCapital, GraphemeBreak.prependedLetters,
    GraphemeBreak.freeMarks, GraphemeBreak.attachedVowels, GraphemeBreak.leading,
    GraphemeBreak.vowels, GraphemeBreak.trailing, SentenceBreak.numberSigns,
    SentenceBreak.fullStops, SentenceBreak.plainQuotes, SentenceBreak.continuing,
    WordBreak.katakanaSigns, WordBreak.letterSigns, WordBreak.unspacedLetters,
    WordBreak.numberSigns, WordBreak.betweenLetters, WordBreak.betweenDigits,
    WordBreak.betweenEither] ++
    Age.additions.map (·.2)

/-- Both ends of each of the given code points. -/
def aroundEach (codes : List Nat) : List Nat := codes.flatMap fun code => [code, code + 1]

/-- The last two code points of each plane, which are never assigned. -/
def planeEnds : List Nat :=
  (List.range 17).flatMap fun plane => [plane * 0x10000 + 0xFFFE, (plane + 1) * 0x10000]

/-- The composed syllables of the Korean script without a consonant at their end. -/
def openSyllables : List Nat := (List.range 399).map fun index => 0xAC00 + 28 * index

/-- The code points that the definitions of properties mention by themselves. -/
def mentionedCodes : List Nat :=
  [0x85, 0xA0, 0x130, 0x5F3, 0x1680, 0x2007, 0x200B, 0x200C, 0x200D, 0x2028, 0x2029, 0x202F, 0x205F,
    0x3000]

/-- The first code points of stretches, and those behind their ends, that the definitions of
properties mention. -/
def mentionedEnds : List Nat :=
  [0x2000, 0x200B, 0xD7A4, 0xD800, 0xE000, 0xFDD0, 0xFDF0, 0x1F1E6, 0x1F200]

/-- All code points at which a property may change, in increasing order.  They are gathered when
first asked for. -/
def landmarks : Thunk (List Nat) := Thunk.mk fun _ =>
  (List.range 0x81 ++ mentionedEnds ++ planeEnds ++ aroundEach (mentionedCodes ++ openSyllables ++
    caseGroupTable.toList.map (·.1)) ++ Category.table.changes ++ Script.table.changes ++
    Script.extensionTable.changes ++ propertyTables.flatMap Runs.changes).mergeSort

end FormRules.Text
