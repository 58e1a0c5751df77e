import FormRules.Json.Basic
import FormRules.Value.Basic

/-!
# Values from JSON

There are two ways from a JSON text to a value.  `Value.ofJson?` takes a JSON value and gives
whatever has a text its text: numbers and truth values count as they are written, and nothing
counts as the empty text.  `Value.read?` reads a text without a JSON value in between: it holds the
parts of the text as `Content` and then tries whether they are a text or else a sequence.
`Value.toJson` gives a value back.

Embeds `from_json` (`Value.ofJson?`) and the derived untagged deserializer of `Value`
(`Value.read?`, with serde's buffer as `Content`); specification, section 3.
-/

namespace FormRules

/-! ### Held parts of a text -/

/-- A JSON text held for more than one attempt to read it.  Objects keep all their members in the
order of the text. -/
inductive Content where
  | null
  | bool (b : Bool)
  | number (n : JsonNumber)
  | string (text : String)
  | array (items : List Content)
  | object (members : List (String × Content))
  deriving Repr

namespace JsonSyntax

mutual

/-- The content of a tree that may be nested `depth` deep; `none` where there is none. -/
def content? (depth : Nat) : JsonSyntax → Option Content
  | .null => some .null
  | .bool b => some (.bool b)
  | .number literal => literal.value?.map .number
  | .string units => (CodeUnits.toText? units).map .string
  | .array items => match depth with
    | 0 => none
    | depth + 1 => (contents? depth items).map .array
  | .object members => match depth with
    | 0 => none
    | depth + 1 => (memberContents? depth members).map .object

/-- The contents of several trees. -/
def contents? (depth : Nat) : List JsonSyntax → Option (List Content)
  | [] => some []
  | item :: items => do
    let item ← content? depth item
    let items ← contents? depth items
    return item :: items

def memberContents? (depth : Nat) : List (List Nat × JsonSyntax) → Option (List (String × Content))
  | [] => some []
  | (name, value) :: members => do
    let name ← CodeUnits.toText? name
    let value ← content? depth value
    let members ← memberContents? depth members
    return (name, value) :: members

end

end JsonSyntax

def Content.read? (text : String) : Option Content :=
  (JsonSyntax.read? text.toList).bind (JsonSyntax.content? Json.maxNesting)

namespace Value

/-! ### Reading -/

mutual

/-- The value of contents: a text, or else a sequence of values. -/
def ofContent? : Content → Option Value
  | .string text => some (.scalar text)
  | .array items => (ofContents? items).map .sequence
  | .null => none
  | .bool _ => none
  | .number _ => none
  | .object _ => none

def ofContents? : List Content → Option (List Value)
  | [] => some []
  | item :: items => do
    let item ← ofContent? item
    let items ← ofContents? items
    return item :: items

end

/-- Reads a value from a JSON text of strings and arrays. -/
def read? (text : String) : Option Value := (Content.read? text).bind ofContent?

/-! ### JSON values -/

mutual

def ofJson? : Json → Option Value
  | .null => some (.scalar "")
  | .bool true => some (.scalar "true")
  | .bool false => some (.scalar "false")
  | .number n => some (.scalar n.text)
  | .string text => some (.scalar text)
  | .array items => (ofJsonItems? items).map .sequence
  | .object _ => none

def ofJsonItems? : List Json → Option (List Value)
  | [] => some []
  | item :: items => do
    let item ← ofJson? item
    let items ← ofJsonItems? items
    return item :: items

end

mutual

def toJson : Value → Json
  | .scalar text => .string text
  | .sequence items => .array (toJsonItems items)

def toJsonItems : List Value → List Json
  | [] => []
  | item :: items => toJson item :: toJsonItems items

end

end Value

end FormRules
