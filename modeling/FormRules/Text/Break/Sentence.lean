import FormRules.Text.Blank
import FormRules.Text.Property

/-!
# Sentences

Where a text falls into sentences depends on the part that each character plays in them.
`SentenceBreak.ofChar` tells the part.

The table is that of Unicode 16.0, as the `regex` library has it.
-/

namespace FormRules.Text

/-- The part of a character in sentences. -/
inductive SentenceBreak
  | carriageReturn
  | lineFeed
  | extend
  /-- Ends a paragraph. -/
  | separator
  | format
  | space
  | lower
  | upper
  | otherLetter
  | numeric
  /-- A full stop, which may also stand inside a sentence. -/
  | ambiguousTerminator
  | terminator
  /-- Punctuation that may follow a terminator. -/
  | close
  /-- Punctuation after which a sentence goes on. -/
  | goesOn
  | other
  deriving DecidableEq, Repr, Inhabited

namespace SentenceBreak

/-- Signs that stand in numbers without being decimal digits. -/
def numberSigns : Runs Bool := Runs.ofRanges
  "600-605 66B-66C 6DD 890-891 8E2 19DA 110BD 110CD"

def fullStops : Runs Bool := Runs.ofRanges
  "2E 2024 FE52 FF0E"

/-- Quotation marks that are neither opening nor closing punctuation. -/
def plainQuotes : Runs Bool := Runs.ofRanges
  "22 27 275B-2760 2E00-2E01 2E06-2E08 2E0B 1F676-1F678"

/-- Punctuation after which a sentence goes on. -/
def continuing : Runs Bool := Runs.ofRanges
  "2C-2D 3A-3B 37E 55D 60C-60D 7F8 1802 1808 2013-2014 3001 FE10-FE11 FE13-FE14 FE31-FE32 FE50-FE51
    FE54-FE55 FE58 FE63 FF0C-FF0D FF1A-FF1B FF64"

/-- The part of a character that is neither blank nor a mark.  Letters of the Georgian script are
neither lower nor upper here, for its sentences begin with the usual form. -/
def ofVisible (c : Char) : SentenceBreak :=
  let code := c.toNat
  if isLowercase c && !georgianSmall.get code then lower
  else if (isUppercase c || hasCategory [.titlecaseLetter] c) && !georgianCapital.get code then
    upper
  else if isAlphabetic c || code = 0x5F3 then otherLetter
  else if isDecimalDigit c || numberSigns.get code then numeric
  else if hasCategory [.format] c then format
  else if fullStops.get code then ambiguousTerminator
  else if sentenceTerminal.get code then terminator
  else if plainQuotes.get code || hasCategory [.openPunctuation, .closePunctuation,
      .initialPunctuation, .finalPunctuation] c then close
  else if continuing.get code then goesOn
  else other

/-- The part that a character plays. -/
def ofChar (c : Char) : SentenceBreak :=
  let code := c.toNat
  if c = '\r' then carriageReturn
  else if c = '\n' then lineFeed
  else if code = 0x200D || extendsGrapheme c || hasCategory [.spacingMark] c then extend
  else if code = 0x85 || code = 0x2028 || code = 0x2029 then separator
  else if isBlank c then space
  else ofVisible c

/-- The parts by name, in lower case and without separators. -/
def names : List (List String × SentenceBreak) := [
  (["cr"], carriageReturn),
  (["lf"], lineFeed),
  (["ex", "extend"], extend),
  (["se", "sep"], separator),
  (["fo", "format"], format),
  (["sp"], space),
  (["lo", "lower"], lower),
  (["up", "upper"], upper),
  (["le", "oletter"], otherLetter),
  (["nu", "numeric"], numeric),
  (["at", "aterm"], ambiguousTerminator),
  (["st", "sterm"], terminator),
  (["cl", "close"], close),
  (["sc", "scontinue"], goesOn)]

/-- The part that a name selects. -/
def named? (name : String) : Option SentenceBreak :=
  (names.find? fun entry => entry.1.contains name).map (·.2)

end SentenceBreak

end FormRules.Text
