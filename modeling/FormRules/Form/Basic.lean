import FormRules.Field

/-!
# Forms

A form lists fields in the order in which they were added and keeps an index from each key to the
place of its field.  A field whose key is already taken is not added.  `Form.failingKeys` gives the
keys of the fields that do not pass.

Embeds `Form` and its operations `with_fields` (`ofFields`), `add_field` (`add`), `add_fields`
(`addAll`), `extend` (`append`), `get_field` (`get?`), `get_field_mut` (`edit?`), `validate`
(`failingKeys`) and `is_valid` (`passes`); specification, sections 3 and 4.4.
-/

namespace FormRules

/-- An ordered collection of fields with an index of their keys. -/
structure Form where
  fields : List Field := []
  index : NameMap Nat := .empty
  deriving DecidableEq

namespace Form

/-- The form without fields. -/
def empty : Form := {}

instance : Inhabited Form := ⟨empty⟩

/-- The keys, in order. -/
def keys (form : Form) : List String := form.fields.map Field.key

/-- The number of fields. -/
def size (form : Form) : Nat := form.fields.length

def isEmpty (form : Form) : Bool := form.fields.isEmpty

/-! ### Adding fields -/

/-- Adds a field at the end, and says whether it was added. -/
def add (form : Form) (field : Field) : Form × Bool :=
  match form.index.get? field.key with
  | some _ => (form, false)
  | none => (⟨form.fields ++ [field], form.index.insert field.key form.fields.length⟩, true)

/-- Adds fields one after the other, and says whether all of them were added.  One that is not
added does not keep the others out. -/
def addAll (form : Form) (fields : List Field) : Form × Bool :=
  fields.foldl (fun (form, all) field =>
    let (form, added) := form.add field
    (form, added && all)) (form, true)

def append (form : Form) (fields : List Field) : Form := (form.addAll fields).1

/-- The form of a list of fields; of two with one key the earlier counts. -/
def ofFields (fields : List Field) : Form := empty.append fields

/-! ### Looking up and changing fields -/

def get? (form : Form) (key : String) : Option Field :=
  (form.index.get? key).bind fun i => form.fields[i]?

/-- The form after a change of the field with a key, if there is one. -/
def edit? (form : Form) (key : String) (e : FieldEdit) : Option Form :=
  (form.index.get? key).map fun i =>
    ⟨form.fields.modify i fun field => field.edit e, form.index⟩

/-! ### Verdicts -/

/-- The keys of the fields that do not pass, in order. -/
def failingKeys (form : Form) : List String :=
  (form.fields.filter fun field => !field.passes).map Field.key

def passes (form : Form) : Bool := form.fields.all Field.passes

theorem passes_iff (form : Form) : form.passes = true ↔ form.failingKeys = [] := by
  simp only [passes, failingKeys, List.map_eq_nil_iff, List.filter_eq_nil_iff, List.all_eq_true,
    Bool.not_eq_true, Bool.not_eq_false']

end Form

end FormRules
