import FormRules.Proofs.Form.OfOutline
import FormRules.Proofs.Json.Reading

/-!
# Forms are read back from their documents

The document of a form outlines it.  Its text is read as a tree of texts, arrays and objects, the
tree gives an entry for each field as long as nothing is nested too deep, and the entries give back
the fields.
-/

namespace FormRules

/-! ### Values -/

namespace Value

mutual

/-- The tree that the text of a value is read as. -/
def toSyntax : Value → JsonSyntax
  | .scalar text => .string (CodeUnits.ofText text)
  | .sequence items => .array (toSyntaxItems items)

def toSyntaxItems : List Value → List JsonSyntax
  | [] => []
  | item :: items => toSyntax item :: toSyntaxItems items

end

mutual

theorem isReadAs_toJson : (value : Value) → value.toJson.IsReadAs value.toSyntax
  | .scalar text => Json.isReadAs_string text
  | .sequence items => Json.isReadAs_array (isReadAs_toJsonItems items)

theorem isReadAs_toJsonItems :
    (items : List Value) → List.Forall₂ Json.IsReadAs (toJsonItems items) (toSyntaxItems items)
  | [] => .nil
  | item :: items => .cons (isReadAs_toJson item) (isReadAs_toJsonItems items)

end

mutual

theorem value?_toSyntax : (value : Value) → (depth : Nat) →
    value.toSyntax.value? depth =
      if value.toJson.nesting ≤ depth then some value.toJson else none
  | .scalar text, depth => by
    rw [toSyntax, toJson, JsonSyntax.value?, CodeUnits.toText?_ofText, Json.nesting,
      if_pos (Nat.zero_le depth)]
    rfl
  | .sequence items, 0 => by
    rw [toSyntax, toJson, JsonSyntax.value?, Json.nesting, if_neg (Nat.not_succ_le_zero _)]
  | .sequence items, depth + 1 => by
    rw [toSyntax, toJson, JsonSyntax.value?, Json.nesting, values?_toSyntaxItems items depth]
    simp only [Nat.add_le_add_iff_right]
    split <;> rfl

theorem values?_toSyntaxItems : (items : List Value) → (depth : Nat) →
    JsonSyntax.values? depth (toSyntaxItems items) =
      if Json.nestingItems (toJsonItems items) ≤ depth then some (toJsonItems items) else none
  | [], depth => by
    rw [toSyntaxItems, toJsonItems, JsonSyntax.values?, Json.nestingItems,
      if_pos (Nat.zero_le depth)]
  | item :: items, depth => by
    rw [toSyntaxItems, toJsonItems, JsonSyntax.values?, Json.nestingItems,
      value?_toSyntax item depth, values?_toSyntaxItems items depth]
    simp only [Nat.max_le]
    by_cases hitem : item.toJson.nesting ≤ depth
    · by_cases hitems : Json.nestingItems (toJsonItems items) ≤ depth
      · simp [hitem, hitems]
      · simp [hitem, hitems]
    · simp [hitem]

end

mutual

theorem ofJson?_toJson : (value : Value) → ofJson? value.toJson = some value
  | .scalar _ => rfl
  | .sequence items => by
    rw [toJson, ofJson?, ofJsonItems?_toJsonItems items]
    rfl

theorem ofJsonItems?_toJsonItems :
    (items : List Value) → ofJsonItems? (toJsonItems items) = some items
  | [] => rfl
  | item :: items => by
    rw [toJsonItems, ofJsonItems?, ofJson?_toJson item, ofJsonItems?_toJsonItems items]
    rfl

end

theorem ofJson_toJson (value : Value) : ofJson value.toJson = .ok value := by
  rw [ofJson, ofJson?_toJson]

theorem ofJsonList_toJsonItems (items : List Value) :
    ofJsonList (toJsonItems items) = .ok items := by
  induction items with
  | nil => rfl
  | cons item items ih =>
    rw [toJsonItems, ofJsonList, ofJson_toJson, ih]
    rfl

end Value

/-! ### Constraints -/

namespace Constraint

/-- A constraint is written like a value. -/
def asValue : Constraint → Value
  | .rules text => .scalar text
  | .oneOf values => .sequence values

theorem toJson_asValue (constraint : Constraint) :
    constraint.asValue.toJson = constraint.toJson := by
  cases constraint <;> rfl

theorem ofJson_toJson (constraint : Constraint) : ofJson constraint.toJson = .ok constraint := by
  cases constraint with
  | rules text => rfl
  | oneOf values =>
    rw [toJson, ofJson, Value.ofJsonList_toJsonItems]
    rfl

end Constraint

/-! ### Fields -/

namespace Field

/-- The entry that outlines a field. -/
def toOutline (field : Field) : FieldOutline :=
  { key := field.key, value := field.value.toJson, rules := field.constraint.toJson,
    name := field.name }

theorem build_toOutline (field : Field) : field.toOutline.build = .ok field := by
  rw [FieldOutline.build, toOutline, Value.ofJson_toJson, Constraint.ofJson_toJson]
  rfl

def toSyntax (field : Field) : JsonSyntax :=
  .object [(CodeUnits.ofText "key", .string (CodeUnits.ofText field.key)),
    (CodeUnits.ofText "value", field.value.toSyntax),
    (CodeUnits.ofText "rules", field.constraint.asValue.toSyntax),
    (CodeUnits.ofText "name", .string (CodeUnits.ofText field.name))]

theorem isReadAs_toJson (field : Field) : field.toJson.IsReadAs field.toSyntax := by
  have hrules : field.constraint.toJson.IsReadAs field.constraint.asValue.toSyntax := by
    rw [← Constraint.toJson_asValue]
    exact field.constraint.asValue.isReadAs_toJson
  apply Json.isReadAs_object
  refine .cons ⟨rfl, Json.isReadAs_string field.key⟩ ?_
  refine .cons ⟨rfl, field.value.isReadAs_toJson⟩ ?_
  refine .cons ⟨rfl, hrules⟩ ?_
  exact .cons ⟨rfl, Json.isReadAs_string field.name⟩ .nil

/-- The value and the constraint of a field are not nested too deep for an entry. -/
def Fits (field : Field) : Prop :=
  field.value.toJson.nesting ≤ FieldOutline.valueNesting ∧
    field.constraint.toJson.nesting ≤ FieldOutline.valueNesting

instance (field : Field) : Decidable field.Fits := inferInstanceAs (Decidable (_ ∧ _))

theorem ofDocument?_toSyntax (field : Field) :
    FieldOutline.ofDocument? field.toSyntax =
      if field.Fits then some field.toOutline else none := by
  have hview : Document.view field.toSyntax = .members [
      ("key", .string (CodeUnits.ofText field.key)), ("value", field.value.toSyntax),
      ("rules", field.constraint.asValue.toSyntax),
      ("name", .string (CodeUnits.ofText field.name))] := by
    simp only [Document.view, toSyntax, JsonSyntax.view, JsonSyntax.namedMembers?,
      CodeUnits.toText?_ofText, Option.bind_eq_bind, Option.bind_some, Option.pure_def]
  have hmembers : FieldOutline.ofDocument? field.toSyntax =
      FieldOutline.ofParts? (.string (CodeUnits.ofText field.key)) (some field.value.toSyntax)
        field.constraint.asValue.toSyntax (some (.string (CodeUnits.ofText field.name))) := by
    rw [FieldOutline.ofDocument?, hview]
    rfl
  have hkey : Document.text? (JsonSyntax.string (CodeUnits.ofText field.key)) = some field.key :=
    CodeUnits.toText?_ofText field.key
  have hname : Document.text? (JsonSyntax.string (CodeUnits.ofText field.name)) =
      some field.name := CodeUnits.toText?_ofText field.name
  have hvalue : Document.json? FieldOutline.valueNesting field.value.toSyntax =
      if field.value.toJson.nesting ≤ FieldOutline.valueNesting then some field.value.toJson
      else none := field.value.value?_toSyntax _
  have hrules : Document.json? FieldOutline.valueNesting field.constraint.asValue.toSyntax =
      if field.constraint.toJson.nesting ≤ FieldOutline.valueNesting
      then some field.constraint.toJson else none := by
    rw [← Constraint.toJson_asValue]
    exact field.constraint.asValue.value?_toSyntax _
  rw [hmembers, FieldOutline.ofParts?, hkey, FieldOutline.valueOf?, hvalue, hrules,
    FieldOutline.nameOf?, hname]
  by_cases hfirst : field.value.toJson.nesting ≤ FieldOutline.valueNesting
  · by_cases hsecond : field.constraint.toJson.nesting ≤ FieldOutline.valueNesting
    · have hfits : field.Fits := ⟨hfirst, hsecond⟩
      rw [if_pos hfirst, if_pos hsecond, if_pos hfits]
      rfl
    · have hfits : ¬field.Fits := fun h => hsecond h.2
      rw [if_pos hfirst, if_neg hsecond, if_neg hfits]
      rfl
  · have hfits : ¬field.Fits := fun h => hfirst h.1
    rw [if_neg hfirst, if_neg hfits]
    rfl

theorem nesting_toJson (field : Field) :
    field.toJson.nesting =
      max field.value.toJson.nesting field.constraint.toJson.nesting + 1 := by
  simp only [toJson, Json.nesting, Json.nestingMembers, Nat.max_zero, Nat.zero_max]

end Field

/-! ### Forms -/

namespace FormOutline

variable {fields : List Field}

theorem toFields_map_toOutline (fields : List Field) :
    toFields (fields.map Field.toOutline) = .ok fields := by
  induction fields with
  | nil => rfl
  | cons field fields ih =>
    rw [List.map_cons, toFields_cons_of_build field.build_toOutline, ih]
    rfl

theorem mapM_ofDocument?_toSyntax (fields : List Field) :
    (fields.map Field.toSyntax).mapM FieldOutline.ofDocument? =
      if ∀ field ∈ fields, field.Fits then some (fields.map Field.toOutline) else none := by
  induction fields with
  | nil => simp
  | cons field fields ih =>
    rw [List.map_cons, List.mapM_cons, ih, field.ofDocument?_toSyntax]
    by_cases hfield : field.Fits
    · by_cases hfields : ∀ field ∈ fields, field.Fits
      · rw [if_pos hfield, if_pos hfields, if_pos (List.forall_mem_cons.2 ⟨hfield, hfields⟩)]
        rfl
      · have hall : ¬∀ other ∈ field :: fields, other.Fits :=
          fun h => hfields (List.forall_mem_cons.1 h).2
        rw [if_pos hfield, if_neg hfields, if_neg hall]
        rfl
    · have hall : ¬∀ other ∈ field :: fields, other.Fits :=
        fun h => hfield (List.forall_mem_cons.1 h).1
      rw [if_neg hfield, if_neg hall]
      rfl

end FormOutline

namespace Form

variable {form : Form}

/-- The outline that the document of a form is. -/
def toOutline (form : Form) : FormOutline := ⟨form.fields.map Field.toOutline⟩

def toSyntax (form : Form) : JsonSyntax :=
  .object [(CodeUnits.ofText "fields", .array (form.fields.map Field.toSyntax))]

theorem isReadAs_toDocument (form : Form) : form.toDocument.IsReadAs form.toSyntax := by
  have hfields : List.Forall₂ Json.IsReadAs (form.fields.map Field.toJson)
      (form.fields.map Field.toSyntax) := by
    rw [List.forall₂_map_left_iff, List.forall₂_map_right_iff, List.forall₂_same]
    exact fun field _ => field.isReadAs_toJson
  apply Json.isReadAs_object
  exact .cons ⟨rfl, Json.isReadAs_array hfields⟩ .nil

theorem ofDocument?_toSyntax (form : Form) :
    FormOutline.ofDocument? form.toSyntax =
      if ∀ field ∈ form.fields, field.Fits then some form.toOutline else none := by
  have hview : Document.view form.toSyntax =
      .members [("fields", .array (form.fields.map Field.toSyntax))] := by
    simp only [Document.view, toSyntax, JsonSyntax.view, JsonSyntax.namedMembers?,
      CodeUnits.toText?_ofText, Option.bind_eq_bind, Option.bind_some, Option.pure_def]
  have hmembers : FormOutline.ofDocument? form.toSyntax =
      ((form.fields.map Field.toSyntax).mapM FieldOutline.ofDocument?).map FormOutline.mk := by
    rw [FormOutline.ofDocument?, hview]
    rfl
  rw [hmembers, FormOutline.mapM_ofDocument?_toSyntax]
  split <;> rfl

theorem nestingItems_le {fields : List Field} {depth : Nat} :
    Json.nestingItems (fields.map Field.toJson) ≤ depth ↔
      ∀ field ∈ fields, field.toJson.nesting ≤ depth := by
  induction fields with
  | nil => simp [Json.nestingItems]
  | cons field fields ih =>
    rw [List.map_cons, Json.nestingItems, Nat.max_le, ih, List.forall_mem_cons]

/-- All fields fit in their entries if the document as a whole can be read. -/
theorem nesting_toDocument :
    form.toDocument.nesting ≤ Json.maxNesting ↔ ∀ field ∈ form.fields, field.Fits := by
  have hdocument : form.toDocument.nesting =
      Json.nestingItems (form.fields.map Field.toJson) + 2 := by
    simp only [toDocument, Json.nesting, Json.nestingMembers, Nat.max_zero]
  have hentry : ∀ field : Field, field.Fits ↔ field.toJson.nesting ≤ Json.maxNesting - 2 := by
    intro field
    rw [Field.Fits, FieldOutline.valueNesting, field.nesting_toJson, Json.maxNesting]
    omega
  rw [hdocument]
  simp only [hentry, ← nestingItems_le]
  rw [Json.maxNesting]
  omega

theorem build_toOutline (hform : form.Reachable) : form.toOutline.build = .ok form := by
  rw [FormOutline.build, toOutline, FormOutline.toFields_map_toOutline]
  exact congrArg Except.ok hform.ofFields_fields

/-- The text of the document of a form is read back as an outline of that form, provided that arrays
and objects are nested less than 128 deep in it. -/
theorem Reachable.build_of_toDocument (hform : form.Reachable) :
    (∃ outline, FormOutline.ofJson? form.toDocument.compact = some outline ∧
      outline.build = .ok form) ↔ form.toDocument.nesting < 128 := by
  have hread : FormOutline.ofJson? form.toDocument.compact =
      FormOutline.ofDocument? form.toSyntax := by
    rw [FormOutline.ofJson?, Json.read?_compact form.isReadAs_toDocument, Option.bind_some]
  have hnesting : form.toDocument.nesting < 128 ↔ ∀ field ∈ form.fields, field.Fits := by
    rw [← nesting_toDocument, Json.maxNesting]
    omega
  rw [hread, ofDocument?_toSyntax, hnesting]
  split
  · rename_i hfits
    exact iff_of_true ⟨form.toOutline, rfl, build_toOutline hform⟩ hfits
  · rename_i hfits
    exact iff_of_false (fun ⟨_, houtline, _⟩ => nomatch houtline) hfits

/-- Escaped characters, empty sequences and an empty list of allowed values are read back. -/
theorem Reachable.build_of_toDocument_escaped :
    let form := ofFields [⟨"a\"\n", .sequence [.scalar "\\", .sequence []], .oneOf [], "é"⟩,
      ⟨"b", .scalar "", .rules "type:string", ""⟩]
    form.Reachable ∧ form.toDocument.nesting < 128 ∧
      ∃ outline, FormOutline.ofJson? form.toDocument.compact = some outline ∧
        outline.build = .ok form := by
  intro form
  have hform : form.Reachable := reachable_ofFields _
  have hnesting : form.toDocument.nesting < 128 := by decide
  exact ⟨hform, hnesting, hform.build_of_toDocument.2 hnesting⟩

end Form

end FormRules
