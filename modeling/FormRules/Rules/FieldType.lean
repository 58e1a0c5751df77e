import FormRules.Value.Basic

/-!
# Field types

The rule `type` names what a field holds.  Names that stand for no type are kept as they are.

Embeds `FieldType` with `from_name` (`ofName`), `as_str` (`name`) and `is_present` (`isGiven`);
specification, sections 3 and 4.2.
-/

namespace FormRules

inductive FieldType where
  | string
  | number
  | email
  | url
  | color
  | date
  | dateTime
  | time
  | array
  /-- A name that stands for no type; no value is good for it. -/
  | unknown (name : String)
  deriving DecidableEq, Repr, Inhabited

namespace FieldType

def ofName (name : String) : FieldType :=
  match name with
  | "string" => .string
  | "number" => .number
  | "email" => .email
  | "url" => .url
  | "color" => .color
  | "date" => .date
  | "datetime" => .dateTime
  | "time" => .time
  | "array" => .array
  | _ => .unknown name

def name : FieldType → String
  | .string => "string"
  | .number => "number"
  | .email => "email"
  | .url => "url"
  | .color => "color"
  | .date => "date"
  | .dateTime => "datetime"
  | .time => "time"
  | .array => "array"
  | .unknown name => name

/-- Whether the type is one that values can be good for. -/
def isKnown : FieldType → Bool
  | .unknown _ => false
  | _ => true

/-- Reading a name loses nothing of it. -/
theorem name_ofName (name : String) : (ofName name).name = name := by
  unfold ofName
  split <;> rfl

/-- Whether a value counts as given: an array needs an item or a text, every other type anything
but the empty text. -/
def isGiven (fieldType : FieldType) (value : Value) : Bool :=
  match fieldType, value with
  | .array, value => !value.isEmpty
  | _, .scalar text => !text.isEmpty
  | _, .sequence _ => true

end FieldType

end FormRules
