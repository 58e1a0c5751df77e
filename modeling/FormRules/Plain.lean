import FormRules.Text.Blank

/-!
# Plain checks on text

Whether a value is a truth value, is more than blank, or has a length within bounds.

Embeds `is_bool` (`isTruthValue`), `is_string_not_empty` (`hasText`) and `text_length_range`
(`hasLengthWithin`); specification, section 6.
-/

namespace FormRules

open FormRules.Text

/-- Whether a value, trimmed, is one of the four texts that stand for a truth value. -/
def isTruthValue (value : String) : Bool :=
  ["true", "false", "1", "0"].any fun word => trim value.toList == word.toList

/-- Whether a value has a character that is not blank. -/
def hasText (value : String) : Bool := !(trim value.toList).isEmpty

def charCount (value : String) : Nat := value.toList.length

/-- Whether the number of characters lies between two bounds, both included. -/
def hasLengthWithin (value : String) (min max : Nat) : Bool :=
  min ≤ charCount value && charCount value ≤ max

end FormRules
