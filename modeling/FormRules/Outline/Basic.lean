import FormRules.Outline.Document

/-!
# Outlines of forms

An outline has an entry for each field, with a key, a value, rules and a name.  In a document the
entries are the member `fields` of an object, and an entry is an object too; both may also be
written as arrays of their parts in order.  Members with other names are passed over.

Embeds `FieldDescriptor` (`FieldOutline`), `FormDefinition` (`FormOutline`), their derived
deserializers (`ofDocument?`), `from_json_str` (`ofJson?`) and `from_toml_str` (`ofToml?`);
specification, section 9.
-/

namespace FormRules

/-- What an outline says about one field. -/
structure FieldOutline where
  key : String
  value : Json := .string ""
  rules : Json
  name : String := ""
  deriving Repr

/-- The entries of an outline. -/
structure FormOutline where
  fields : List FieldOutline := []
  deriving Repr

variable {α : Type}

/-- The only member with a name: nothing if there is none, and a failure if there are several. -/
def onlyMember? (name : String) (members : List (String × α)) : Option (Option α) :=
  match members.filter fun member => member.1 == name with
  | [] => some none
  | [member] => some (some member.2)
  | _ => none

/-- Whether the members whose names are not listed can be passed over. -/
def othersSkippable [Document α] (names : List String) (members : List (String × α)) : Bool :=
  members.all fun member => names.contains member.1 || Document.isSkippable member.2

namespace FieldOutline

/-- The depth that is left for a value in an entry, which stands in an array in an object. -/
def valueNesting : Nat := Json.maxNesting - 3

/-- A name that may be left out. -/
def nameOf? [Document α] : Option α → Option String
  | none => some ""
  | some part => Document.text? part

/-- A value that may be left out. -/
def valueOf? [Document α] : Option α → Option Json
  | none => some (.string "")
  | some part => Document.json? valueNesting part

/-- An entry of its parts. -/
def ofParts? [Document α] (key : α) (value : Option α) (rules : α) (name : Option α) :
    Option FieldOutline := do
  let key ← Document.text? key
  let value ← valueOf? value
  let rules ← Document.json? valueNesting rules
  let name ← nameOf? name
  return { key, value, rules, name }

/-- An entry from the members of an object. -/
def ofMembers? [Document α] (members : List (String × α)) : Option FieldOutline := do
  let key ← ← onlyMember? "key" members
  let value ← onlyMember? "value" members
  let rules ← ← onlyMember? "rules" members
  let name ← onlyMember? "name" members
  if othersSkippable ["key", "value", "rules", "name"] members then ofParts? key value rules name
  else none

/-- An entry from the items of an array. -/
def ofItems? [Document α] : List α → Option FieldOutline
  | [key, value, rules] => ofParts? key (some value) rules none
  | key :: value :: rules :: name :: more =>
    if more.isEmpty || Document.allowsMoreItems α then ofParts? key (some value) rules (some name)
    else none
  | _ => none

def ofDocument? [Document α] (part : α) : Option FieldOutline :=
  match Document.view part with
  | .members members => ofMembers? members
  | .items items => ofItems? items
  | .other => none

def toJson (entry : FieldOutline) : Json :=
  .object [("key", .string entry.key), ("value", entry.value),
    ("rules", entry.rules), ("name", .string entry.name)]

end FieldOutline

namespace FormOutline

/-- The entries from a part of a document, which must be an array. -/
def fieldsOf? [Document α] (part : α) : Option (List FieldOutline) :=
  match Document.view part with
  | .items items => items.mapM FieldOutline.ofDocument?
  | _ => none

/-- An outline from the part that lists its fields, which may be left out. -/
def ofFields? [Document α] : Option α → Option FormOutline
  | none => some {}
  | some part => (fieldsOf? part).map FormOutline.mk

def ofMembers? [Document α] (members : List (String × α)) : Option FormOutline := do
  let fields ← onlyMember? "fields" members
  if othersSkippable ["fields"] members then ofFields? fields else none

def ofDocument? [Document α] (document : α) : Option FormOutline :=
  match Document.view document with
  | .members members => ofMembers? members
  | .items [] => some {}
  | .items (part :: more) =>
    if more.isEmpty || Document.allowsMoreItems α then ofFields? (some part) else none
  | .other => none

def ofJson? (source : String) : Option FormOutline :=
  (JsonSyntax.read? source.toList).bind ofDocument?

def ofToml? (source : String) : Option FormOutline := (Toml.read? source).bind ofMembers?

def toJson (outline : FormOutline) : Json :=
  .object [("fields", .array (outline.fields.map FieldOutline.toJson))]

end FormOutline

end FormRules
