import FormRules.Form.Basic
import FormRules.Outline.Basic
import FormRules.Value.OfJson

/-!
# Forms from outlines

Each entry of an outline becomes a field if its value and its rules can be taken as such.
`FormOutline.build` drops fields whose key was already there, `FormOutline.buildDistinct` refuses
them.  `Form.toDocument` writes a form as a document that outlines it.

Embeds `into_field` (`FieldOutline.build`), `value_from_json` (`Value.ofJson`), `into_form`
(`FormOutline.build`), `into_form_strict` (`FormOutline.buildDistinct`), and the errors
`ConfigurationError` (`FieldFault`) and `FormError` (`FormFault`); specification, sections 7 and 9.
-/

namespace FormRules

/-- What is wrong with an entry. -/
inductive FieldFault where
  | unusableRules (key found : String)
  | unusableValue (key found : String)
  deriving DecidableEq, Repr

/-- The wording of the error. -/
def FieldFault.message : FieldFault → String
  | .unusableRules key found =>
    "Field " ++ key ++ ": rules must be a rule string or an array of values, found " ++ found
  | .unusableValue key found => "Field " ++ key ++ ": unsupported value " ++ found

/-- Why an outline gives no form. -/
inductive FormFault where
  | field (cause : FieldFault)
  | repeatedKey (key : String)
  deriving DecidableEq, Repr

/-- The wording of the error. -/
def FormFault.message : FormFault → String
  | .field cause => "Configuration error: " ++ cause.message
  | .repeatedKey key => "Duplicate field key: " ++ key

/-! ### Entries -/

/-- The value for a JSON value; where there is none, the text of what was found. -/
def Value.ofJson (json : Json) : Except String Value :=
  match Value.ofJson? json with
  | some value => .ok value
  | none => .error json.compact

/-- The values for JSON values, up to the first that has none. -/
def Value.ofJsonList : List Json → Except String (List Value)
  | [] => .ok []
  | json :: jsons => do
    let value ← Value.ofJson json
    let values ← Value.ofJsonList jsons
    return value :: values

/-- The constraint for a JSON value: a rule text or a list of allowed values. -/
def Constraint.ofJson (json : Json) : Except String Constraint :=
  match json with
  | .string text => .ok (.rules text)
  | .array items => (Value.ofJsonList items).map .oneOf
  | other => .error other.compact

/-- The field of an entry.  The value is looked at before the rules. -/
def FieldOutline.build (entry : FieldOutline) : Except FieldFault Field := do
  let value ← (Value.ofJson entry.value).mapError (.unusableValue entry.key)
  let constraint ← (Constraint.ofJson entry.rules).mapError (.unusableRules entry.key)
  return { key := entry.key, value, constraint, name := entry.name }

/-! ### Outlines -/

namespace FormOutline

/-- The fields of entries, up to the first that has none. -/
def toFields : List FieldOutline → Except FieldFault (List Field)
  | [] => .ok []
  | entry :: entries => do
    let field ← entry.build
    let fields ← toFields entries
    return field :: fields

/-- The form of an outline; of two fields with one key the earlier counts. -/
def build (outline : FormOutline) : Except FormFault Form :=
  match toFields outline.fields with
  | .ok fields => .ok (.ofFields fields)
  | .error e => .error (.field e)

/-- Adds the fields of entries one after the other, and stops where a key is already taken. -/
def addDistinct (form : Form) : List FieldOutline → Except FormFault Form
  | [] => .ok form
  | entry :: entries => match entry.build with
    | .error e => .error (.field e)
    | .ok field => match form.add field with
      | (form, true) => addDistinct form entries
      | (_, false) => .error (.repeatedKey field.key)

/-- The form of an outline in which no key occurs twice. -/
def buildDistinct (outline : FormOutline) : Except FormFault Form :=
  addDistinct .empty outline.fields

end FormOutline

/-! ### Documents -/

def Constraint.toJson : Constraint → Json
  | .rules text => .string text
  | .oneOf values => .array (Value.toJsonItems values)

def Field.toJson (field : Field) : Json :=
  .object [("key", .string field.key), ("value", field.value.toJson),
    ("rules", field.constraint.toJson), ("name", .string field.name)]

def Form.toDocument (form : Form) : Json :=
  .object [("fields", .array (form.fields.map Field.toJson))]

end FormRules
