import FormRules.Json.Syntax
import FormRules.NameMap

/-!
# JSON values

`Json.read?` gives the value of a JSON text: strings are made of characters, numbers are in range,
and objects have each name once, in order.  Arrays and objects may be nested up to `maxNesting`
deep.  `Json.compact` writes a value without gaps.

Embeds the values of `serde_json`, as far as `FormDefinition` and `Value` read and write them, with
its recursion limit (`maxNesting`).
-/

namespace FormRules

/-- A JSON value. -/
inductive Json where
  | null
  | bool (b : Bool)
  | number (n : JsonNumber)
  | string (text : String)
  | array (items : List Json)
  | object (members : List (String × Json))
  deriving Repr

/-! ### Characters of strings -/

namespace CodeUnits

/-- Whether a code unit begins a surrogate pair. -/
def isHigh (unit : Nat) : Bool := 0xD800 ≤ unit && unit ≤ 0xDBFF

/-- Whether a code unit ends a surrogate pair. -/
def isLow (unit : Nat) : Bool := 0xDC00 ≤ unit && unit ≤ 0xDFFF

def pair (high low : Nat) : Char := Char.ofNat (0x10000 + (high - 0xD800) * 0x400 + (low - 0xDC00))

/-- The characters of code units; `none` where a surrogate stands alone. -/
def toChars? : List Nat → Option (List Char)
  | [] => some []
  | unit :: rest =>
    if isHigh unit then
      match rest with
      | [] => none
      | low :: rest => if isLow low then (toChars? rest).map (pair unit low :: ·) else none
    else if isLow unit then none
    else (toChars? rest).map (Char.ofNat unit :: ·)

/-- The text of code units; `none` where a surrogate stands alone. -/
def toText? (units : List Nat) : Option String := (toChars? units).map String.ofList

end CodeUnits

/-! ### The value of a text -/

/-- The greatest depth of arrays and objects within each other. -/
def Json.maxNesting : Nat := 127

namespace JsonSyntax

mutual

/-- The value of a tree that may be nested `depth` deep; `none` where it has none. -/
def value? (depth : Nat) : JsonSyntax → Option Json
  | .null => some .null
  | .bool b => some (.bool b)
  | .number literal => literal.value?.map .number
  | .string units => (CodeUnits.toText? units).map .string
  | .array items => match depth with
    | 0 => none
    | depth + 1 => (values? depth items).map .array
  | .object members => match depth with
    | 0 => none
    | depth + 1 => (memberValues? depth members).map fun members =>
      .object (NameMap.ofList members).entries

/-- The values of several trees. -/
def values? (depth : Nat) : List JsonSyntax → Option (List Json)
  | [] => some []
  | item :: items => do
    let item ← value? depth item
    let items ← values? depth items
    return item :: items

def memberValues? (depth : Nat) : List (List Nat × JsonSyntax) → Option (List (String × Json))
  | [] => some []
  | (name, value) :: members => do
    let name ← CodeUnits.toText? name
    let value ← value? depth value
    let members ← memberValues? depth members
    return (name, value) :: members

end

end JsonSyntax

namespace Json

def read? (text : String) : Option Json :=
  (JsonSyntax.read? text.toList).bind (JsonSyntax.value? maxNesting)

mutual

/-- The depth of arrays and objects within each other. -/
def nesting : Json → Nat
  | .null => 0
  | .bool _ => 0
  | .number _ => 0
  | .string _ => 0
  | .array items => nestingItems items + 1
  | .object members => nestingMembers members + 1

def nestingItems : List Json → Nat
  | [] => 0
  | item :: items => max (nesting item) (nestingItems items)

def nestingMembers : List (String × Json) → Nat
  | [] => 0
  | (_, value) :: members => max (nesting value) (nestingMembers members)

end

/-! ### Writing -/

/-- A character within a string: quotes, backslashes and controls are escaped. -/
def escape (c : Char) : List Char :=
  match c with
  | '"' => ['\\', '"']
  | '\\' => ['\\', '\\']
  | '\x08' => ['\\', 'b']
  | '\x0c' => ['\\', 'f']
  | '\n' => ['\\', 'n']
  | '\r' => ['\\', 'r']
  | '\t' => ['\\', 't']
  | c =>
    if c.toNat < 0x20 then
      ['\\', 'u', '0', '0', Nat.digitChar (c.toNat / 16), Nat.digitChar (c.toNat % 16)]
    else [c]

def quote (text : String) : List Char := '"' :: text.toList.flatMap escape ++ ['"']

mutual

/-- A value without gaps. -/
def compactChars : Json → List Char
  | .null => "null".toList
  | .bool true => "true".toList
  | .bool false => "false".toList
  | .number n => n.text.toList
  | .string text => quote text
  | .array items => '[' :: compactItems items
  | .object members => '{' :: compactMembers members

/-- Items with commas between them and the bracket that closes them. -/
def compactItems : List Json → List Char
  | [] => [']']
  | [item] => compactChars item ++ [']']
  | item :: next :: items => compactChars item ++ ',' :: compactItems (next :: items)

/-- Members with commas between them and the brace that closes them. -/
def compactMembers : List (String × Json) → List Char
  | [] => ['}']
  | [(name, value)] => quote name ++ ':' :: compactChars value ++ ['}']
  | (name, value) :: next :: members =>
    quote name ++ ':' :: compactChars value ++ ',' :: compactMembers (next :: members)

end

/-- The text of a value without gaps. -/
def compact (json : Json) : String := String.ofList json.compactChars

end Json

end FormRules
