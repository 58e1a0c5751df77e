import FormRules.Json.Basic
import FormRules.Toml.Datetime

/-!
# TOML values

Numbers are kept as they are written, whatever their size.  `TomlValue.toJson?` gives the JSON
value of one whose numbers are in range; a date or time becomes an object with a single member.

Embeds the values of `toml`, as `from_toml_str` turns them into `serde_json` values.
-/

namespace FormRules

/-- A floating-point number as it is written. -/
inductive TomlFloat where
  | decimal (d : Decimal)
  | infinity (negative : Bool)
  | nan
  deriving DecidableEq, Repr

inductive TomlValue where
  | string (text : String)
  | integer (n : Int)
  | float (x : TomlFloat)
  | bool (b : Bool)
  | datetime (d : TomlDatetime)
  | array (items : List TomlValue)
  | table (entries : List (String × TomlValue))
  deriving Repr

namespace TomlFloat

/-- Whether the number is written as infinite or is not so large that it becomes infinite. -/
def isInRange : TomlFloat → Bool
  | .decimal d => d.toBinary64.isFinite
  | _ => true

/-- The JSON value of a number in range; what JSON has no number for becomes nothing. -/
def toJson? : TomlFloat → Option Json
  | .decimal d => if d.toBinary64.isFinite then some (.number (.float d.toBinary64)) else none
  | .infinity _ => some .null
  | .nan => some .null

end TomlFloat

namespace TomlValue

/-- The name of the member that holds a date or time. -/
def datetimeName : String := "$__toml_private_datetime"

/-- Whether an integer fits in 64 bits, signed or unsigned. -/
def fits64 (n : Int) : Bool := -0x8000000000000000 ≤ n && n < 0x10000000000000000

/-- Whether an integer fits in 128 bits, signed or unsigned. -/
def fits128 (n : Int) : Bool :=
  -0x80000000000000000000000000000000 ≤ n && n < 0x100000000000000000000000000000000

mutual

/-- The JSON value; `none` where a number in it is out of range. -/
def toJson? : TomlValue → Option Json
  | .string text => some (.string text)
  | .integer n => if fits64 n then some (.number (.integer n)) else none
  | .float x => x.toJson?
  | .bool b => some (.bool b)
  | .datetime d => some (.object [(datetimeName, .string d.text)])
  | .array items => (toJsonItems? items).map .array
  | .table entries => (toJsonMembers? entries).map fun members =>
    .object (NameMap.ofList members).entries

def toJsonItems? : List TomlValue → Option (List Json)
  | [] => some []
  | item :: items => do
    let item ← toJson? item
    let items ← toJsonItems? items
    return item :: items

def toJsonMembers? : List (String × TomlValue) → Option (List (String × Json))
  | [] => some []
  | (name, value) :: entries => do
    let value ← toJson? value
    let entries ← toJsonMembers? entries
    return (name, value) :: entries

end

mutual

/-- Whether the value can be passed over: its numbers are not beyond all measure. -/
def isSkippable : TomlValue → Bool
  | .integer n => fits128 n
  | .float x => x.isInRange
  | .array items => areSkippable items
  | .table entries => entriesAreSkippable entries
  | _ => true

/-- Whether all items can be passed over. -/
def areSkippable : List TomlValue → Bool
  | [] => true
  | item :: items => isSkippable item && areSkippable items

/-- Whether the values of all entries can be passed over. -/
def entriesAreSkippable : List (String × TomlValue) → Bool
  | [] => true
  | (_, value) :: entries => isSkippable value && entriesAreSkippable entries

end

end TomlValue

end FormRules
