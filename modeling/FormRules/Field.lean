import FormRules.Criterion

/-!
# Constraints and fields

A field pairs a value with a constraint on it: either a rule text or a list of the values that are
allowed.  `Field.passes` decides whether the value meets the constraint.

Embeds `ConstraintSpec` (`Constraint`), `Field`, its setters `set_value`, `set_constraint` and
`set_name` (`Field.edit`), and `field_passes` (`Field.passes`); specification, sections 3 and 4.2.
-/

namespace FormRules

/-- What a field asks of its value. -/
inductive Constraint where
  | rules (text : String)
  | oneOf (values : List Value)
  deriving DecidableEq, Repr

namespace Constraint

/-- The rule text, if the constraint is one. -/
def ruleText? : Constraint → Option String
  | .rules text => some text
  | .oneOf _ => none

/-- The allowed values, if the constraint lists them. -/
def allowed? : Constraint → Option (List Value)
  | .rules _ => none
  | .oneOf values => some values

/-- Whether a value meets a constraint.  Under a rule text a value that is neither required nor
given is not looked at. -/
def permits (constraint : Constraint) (value : Value) : Bool :=
  match constraint with
  | .oneOf values => values.contains value
  | .rules text =>
    let rules := Rules.ofText text
    (!rules.required && !rules.fieldType.isGiven value) || rules.accepts value

end Constraint

/-- A named value and what is asked of it.  The key identifies the field in a form, the name is for
display. -/
structure Field where
  key : String
  value : Value
  constraint : Constraint
  name : String := ""
  deriving DecidableEq, Repr

/-- A change of a field; the key cannot be changed. -/
inductive FieldEdit where
  | value (value : Value)
  | constraint (constraint : Constraint)
  | name (name : String)
  deriving DecidableEq, Repr

namespace Field

def passes (field : Field) : Bool := field.constraint.permits field.value

/-- The field after a change. -/
def edit (field : Field) : FieldEdit → Field
  | .value value => { field with value }
  | .constraint constraint => { field with constraint }
  | .name name => { field with name }

@[simp] theorem key_edit (field : Field) (e : FieldEdit) : (field.edit e).key = field.key := by
  cases e <;> rfl

/-- A new name does not change the verdict. -/
theorem passes_edit_name (field : Field) (name : String) :
    (field.edit (.name name)).passes = field.passes := rfl

end Field

end FormRules
