import FormRules.Text.Age
import FormRules.Text.Break.Grapheme
import FormRules.Text.Break.Sentence
import FormRules.Text.Break.Word
import FormRules.Text.CaseChange

/-!
# Properties by name

A pattern may ask for a property by its name, or for a property with one of several values by both
names.  `namedProperty?` and `valuedProperty?` find them; names are given in lower case and without
separators.

The names are those that the `regex` library knows behind `\p`.
-/

namespace FormRules.Text

/-- The properties that a pattern may name, each with its names in lower case and without
separators. -/
def properties : List (List String × (Char → Bool)) := [
  (["ascii"], isAscii),
  (["asciihexdigit", "ahex"], fun c => isAscii c && hexDigits.get c.toNat),
  (["alphabetic", "alpha"], isAlphabetic),
  (["bidicontrol", "bidic"], fun c => bidiControl.get c.toNat),
  (["bidimirrored", "bidim"], fun c => bidiMirrored.get c.toNat),
  (["caseignorable", "ci"], fun c => midWord.get c.toNat || hasCategory
    [.nonspacingMark, .enclosingMark, .format, .modifierLetter, .modifierSymbol] c),
  (["cased"], isCased),
  (["changeswhencasefolded", "cwcf"], changesWhenCasefolded),
  (["changeswhencasemapped", "cwcm"], changesWhenCasemapped),
  (["changeswhenlowercased", "cwl"], changesWhenLowercased),
  (["changeswhentitlecased", "cwt"], changesWhenTitlecased),
  (["changeswhenuppercased", "cwu"], changesWhenUppercased),
  (["dash"], fun c => dash.get c.toNat),
  (["defaultignorablecodepoint", "di"], isDefaultIgnorable),
  (["deprecated", "dep"], fun c => deprecatedChars.get c.toNat),
  (["diacritic", "dia"], fun c => diacritic.get c.toNat),
  (["emoji"], fun c => emoji.get c.toNat),
  (["emojicomponent", "ecomp"], fun c => emojiComponent.get c.toNat),
  (["emojimodifier", "emod"], fun c => emojiModifier.get c.toNat),
  (["emojimodifierbase", "ebase"], fun c => emojiModifierBase.get c.toNat),
  (["emojipresentation", "epres"], fun c => emojiPresentation.get c.toNat),
  (["extendedpictographic", "extpict"], fun c => extendedPictographic.get c.toNat),
  (["extender", "ext"], fun c => extender.get c.toNat),
  (["graphemebase", "grbase"], fun c => !extendsGrapheme c && !hasCategory
    (.lineSeparator :: .paragraphSeparator :: Category.Group.other.members) c),
  (["graphemeextend", "grext"], extendsGrapheme),
  (["graphemelink", "grlink"], fun c => graphemeLink.get c.toNat),
  (["hexdigit", "hex"], fun c => hexDigits.get c.toNat),
  (["hyphen"], fun c => hyphen.get c.toNat),
  (["idcompatmathcontinue"], fun c => mathIdStart.get c.toNat || mathIdContinue.get c.toNat),
  (["idcompatmathstart"], fun c => mathIdStart.get c.toNat),
  (["idcontinue", "idc"], isIdContinue),
  (["idstart", "ids"], isIdStart),
  (["ideographic", "ideo"], fun c => ideographic.get c.toNat),
  (["idsbinaryoperator", "idsb"], fun c => idsBinaryOperator.get c.toNat),
  (["idstrinaryoperator", "idst"], fun c => idsTrinaryOperator.get c.toNat),
  (["idsunaryoperator", "idsu"], fun c => idsUnaryOperator.get c.toNat),
  (["joincontrol", "joinc"], isJoinControl),
  (["logicalorderexception", "loe"], fun c => logicalOrderException.get c.toNat),
  (["lowercase", "lower"], isLowercase),
  (["math"], fun c => otherMath.get c.toNat || hasCategory [.mathSymbol] c),
  (["modifiercombiningmark", "mcm"], fun c => modifierMarks.get c.toNat),
  (["noncharactercodepoint", "nchar"], isNoncharacter),
  (["otheralphabetic", "oalpha"], fun c => otherAlphabetic.get c.toNat),
  (["otherdefaultignorablecodepoint", "odi"], fun c => otherDefaultIgnorable.get c.toNat),
  (["othergraphemeextend", "ogrext"], fun c => otherGraphemeExtend.get c.toNat),
  (["otheridcontinue", "oidc"], fun c => otherIdContinue.get c.toNat),
  (["otheridstart", "oids"], fun c => otherIdStart.get c.toNat),
  (["otherlowercase", "olower"], fun c => otherLowercase.get c.toNat),
  (["othermath", "omath"], fun c => otherMath.get c.toNat),
  (["otheruppercase", "oupper"], fun c => otherUppercase.get c.toNat),
  (["patternsyntax", "patsyn"], fun c => patternMarks.get c.toNat),
  (["patternwhitespace", "patws"], fun c => patternBlank.get c.toNat),
  (["prependedconcatenationmark", "pcm"], fun c => prependedMarks.get c.toNat),
  (["quotationmark", "qmark"], fun c => quotationMark.get c.toNat),
  (["radical"], fun c => radical.get c.toNat),
  (["regionalindicator", "ri"], isRegionalIndicator),
  (["sentenceterminal", "sterm"], fun c => sentenceTerminal.get c.toNat),
  (["softdotted", "sd"], fun c => softDotted.get c.toNat),
  (["terminalpunctuation", "term"], fun c => terminalPunctuation.get c.toNat),
  (["unifiedideograph", "uideo"], fun c => unifiedIdeograph.get c.toNat),
  (["uppercase", "upper"], isUppercase),
  (["variationselector", "vs"], fun c => variationSelector.get c.toNat),
  (["whitespace", "wspace", "space"], isBlank),
  (["xidcontinue", "xidc"], fun c => isIdContinue c && !notXidContinue.get c.toNat),
  (["xidstart", "xids"], fun c => isIdStart c && !notXidStart.get c.toNat)]

def hasScript (script : Script) (c : Char) : Bool := Script.ofChar c == script

/-- The property with a name: one of those listed, a general category, or a script. -/
def namedProperty? (name : String) : Option (Char → Bool) :=
  match properties.find? fun entry => entry.1.contains name with
  | some (_, has) => some has
  | none => match Category.named? name with
    | some categories => some (hasCategory categories)
    | none => (Script.named? name).map hasScript

/-- The properties that have several values, each with its names and a way to find a value. -/
def valuedProperties : List (List String × (String → Option (Char → Bool))) := [
  (["gc", "generalcategory"], fun value =>
    if value == "ascii" then some isAscii else (Category.named? value).map hasCategory),
  (["sc", "script"], fun value => (Script.named? value).map hasScript),
  (["scx", "scriptextensions"], fun value =>
    (Script.named? value).map fun script c => (Script.extensions c).contains script),
  (["age"], fun value => (Age.named? value).map Age.covers),
  (["gcb", "graphemeclusterbreak"], fun value =>
    (GraphemeBreak.named? value).map fun part c => GraphemeBreak.ofChar c == part),
  (["sb", "sentencebreak"], fun value =>
    (SentenceBreak.named? value).map fun part c => SentenceBreak.ofChar c == part),
  (["wb", "wordbreak"], fun value =>
    (WordBreak.named? value).map fun part c => WordBreak.ofChar c == part)]

def valuedProperty? (name value : String) : Option (Char → Bool) :=
  (valuedProperties.find? fun entry => entry.1.contains name).bind fun entry => entry.2 value

end FormRules.Text
