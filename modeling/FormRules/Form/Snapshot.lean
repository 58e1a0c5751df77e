import FormRules.Form.OfOutline

/-!
# Snapshots

The snapshot of a field is what it shows of itself, the constraint under the name of rules.  The
document of a form is made of the snapshots of its fields.

Embeds `FieldSnapshot` and `get_fields` (`Form.snapshots`); specification, section 4.4.
-/

namespace FormRules

structure FieldSnapshot where
  key : String
  value : Value
  rules : Constraint
  name : String
  deriving DecidableEq, Repr

namespace FieldSnapshot

def ofField (field : Field) : FieldSnapshot where
  key := field.key
  value := field.value
  rules := field.constraint
  name := field.name

def toJson (snapshot : FieldSnapshot) : Json :=
  .object [("key", .string snapshot.key), ("value", snapshot.value.toJson),
    ("rules", snapshot.rules.toJson), ("name", .string snapshot.name)]

theorem toJson_ofField (field : Field) : (ofField field).toJson = field.toJson := rfl

/-- Nothing of a field is lost. -/
theorem ofField_injective {field other : Field} (h : ofField field = ofField other) :
    field = other := by
  cases field
  cases other
  simpa only [ofField, FieldSnapshot.mk.injEq, Field.mk.injEq] using h

end FieldSnapshot

namespace Form

/-- The snapshots of the fields, in order. -/
def snapshots (form : Form) : List FieldSnapshot := form.fields.map FieldSnapshot.ofField

theorem toDocument_eq (form : Form) :
    form.toDocument = .object [("fields", .array (form.snapshots.map FieldSnapshot.toJson))] := by
  rw [toDocument, snapshots, List.map_map]
  rfl

end Form

end FormRules
