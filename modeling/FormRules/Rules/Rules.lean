import FormRules.Number.Numeral
import FormRules.Rules.FieldType
import FormRules.Rules.Pairs

/-!
# Rules

The rules of a field are read from the pairs of its rule text.  Nine names have a meaning; pairs
with other names are kept.  A bound that is no number counts as absent.

Embeds `Rules` with `parse` (`Rules.ofText`), the conversion from a `RuleMap` (`Rules.ofMap`),
`flag` (`isOn`), `bound` (`numberOf?`) and `within_bounds` (`Rules.admits`); specification, sections
3 and 4.1.
-/

namespace FormRules

/-- What a rule text asks of a value. -/
structure Rules where
  required : Bool := false
  fieldType : FieldType := .string
  max : Option Binary64 := none
  min : Option Binary64 := none
  format : Option String := none
  regex : Option String := none
  positive : Bool := false
  negative : Bool := false
  nonzero : Bool := false
  /-- The pairs whose names have no meaning here. -/
  extra : RulePairs := .empty
  deriving DecidableEq

namespace Rules

/-- Whether a value switches a rule on. -/
def isOn (value : String) : Bool := value == "true"

/-- The rules with one more pair. -/
def set (rules : Rules) (name value : String) : Rules :=
  match name with
  | "required" => { rules with required := isOn value }
  | "type" => { rules with fieldType := .ofName value }
  | "max" => { rules with max := numberOf? value }
  | "min" => { rules with min := numberOf? value }
  | "format" => { rules with format := some value }
  | "regex" => { rules with regex := some value }
  | "positive" => { rules with positive := isOn value }
  | "negative" => { rules with negative := isOn value }
  | "nonzero" => { rules with nonzero := isOn value }
  | _ => { rules with extra := rules.extra.insert name value }

def ofEntries (entries : List (String × String)) : Rules :=
  entries.foldl (fun rules e => rules.set e.1 e.2) {}

def ofMap (m : RulePairs) : Rules := ofEntries m.entries

def ofText (ruleText : String) : Rules := ofMap (RulePairs.ofText ruleText)

/-- Whether a measure lies within the bounds, both included. -/
def admits (rules : Rules) (measure : Binary64) : Bool :=
  rules.max.all (fun max => measure.le max) && rules.min.all (fun min => min.le measure)

end Rules

end FormRules
