import FormRules.Json.Basic
import FormRules.Toml.Reader

/-!
# Documents

Outlines are read from JSON or TOML documents.  Both are looked at in the same way: as members
with names, as items in a row, as a text, or as a value that is kept as JSON.  What is asked of a
part of a document is asked only of the parts that are looked at.

The two kinds of document are those that `from_json_str` and `from_toml_str` deserialize from.
-/

namespace FormRules

/-- What a part of a document consists of. -/
inductive DocumentView (α : Type) where
  | members (members : List (String × α))
  | items (items : List α)
  | other

/-- A kind of document. -/
class Document (α : Type) where
  /-- What the part consists of. -/
  view : α → DocumentView α
  /-- The text of a part. -/
  text? : α → Option String
  /-- The JSON value of a part that may be nested to the given depth. -/
  json? : Nat → α → Option Json
  /-- Whether a part may stand where nobody looks at it. -/
  isSkippable : α → Bool
  /-- Whether items may stand behind those that are looked at. -/
  allowsMoreItems : Bool

namespace JsonSyntax

/-- The members of an object, if all of its names are texts. -/
def namedMembers? : List (List Nat × JsonSyntax) → Option (List (String × JsonSyntax))
  | [] => some []
  | (name, value) :: members => do
    let name ← CodeUnits.toText? name
    let members ← namedMembers? members
    return (name, value) :: members

/-- What a JSON text consists of. -/
def view : JsonSyntax → DocumentView JsonSyntax
  | .object members => match namedMembers? members with
    | some members => .members members
    | none => .other
  | .array items => .items items
  | _ => .other

def text? : JsonSyntax → Option String
  | .string units => CodeUnits.toText? units
  | _ => none

instance : Document JsonSyntax where
  view := view
  text? := text?
  json? := value?
  isSkippable _ := true
  allowsMoreItems := false

end JsonSyntax

namespace TomlValue

/-- What a TOML value consists of.  A date is seen as its only member. -/
def view : TomlValue → DocumentView TomlValue
  | .table entries => .members entries
  | .array items => .items items
  | .datetime d => .members [(datetimeName, .string d.text)]
  | _ => .other

def text? : TomlValue → Option String
  | .string text => some text
  | _ => none

instance : Document TomlValue where
  view := view
  text? := text?
  json? _ value := value.toJson?
  isSkippable := isSkippable
  allowsMoreItems := true

end TomlValue

end FormRules
