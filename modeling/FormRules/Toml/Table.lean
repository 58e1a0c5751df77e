import FormRules.Toml.Basic

/-!
# Tables of a TOML document

A document opens tables and adds values to them, and its rules say which tables may be opened again
and which may still grow.  A draft is a table under construction that remembers how its parts came
about: `Draft.assign?` adds a value under a dotted key, `Draft.openTable?` and `Draft.openItem?`
follow a header.  Values, inline tables among them, are closed.

Embeds the rules of `toml` on what may be defined twice.
-/

namespace FormRules.Toml

/-- How a table came about. -/
inductive TableOrigin where
  /-- By a header of its own. -/
  | header
  /-- On the way to the table of another header. -/
  | implied
  /-- On the way to a value under a dotted key. -/
  | dotted
  deriving DecidableEq, Repr

/-- What stands under a key while a document is being read. -/
inductive Part where
  | value (v : TomlValue)
  | table (origin : TableOrigin) (parts : List (String × Part))
  /-- Tables that were opened one after the other; the last one grows. -/
  | items (tables : List (List (String × Part)))
  deriving Repr

/-- A table under construction. -/
abbrev Draft := List (String × Part)

namespace Draft

/-- What stands under a key. -/
def find? (key : String) (draft : Draft) : Option Part := draft.lookup key

/-- Puts something under a key, in place of what is there or at the end. -/
def put (key : String) (part : Part) : Draft → Draft
  | [] => [(key, part)]
  | (other, p) :: rest =>
    if key = other then (key, part) :: rest else (other, p) :: put key part rest

def changeLast? (change : Draft → Option Draft) (tables : List Draft) : Option (List Draft) :=
  match tables.getLast? with
  | none => none
  | some last => (change last).map fun last => tables.dropLast ++ [last]

/-- Adds a value under a key at the end of a path.  Tables on the path may not have a header of
their own, and a new key goes only into the table that the path starts from or into one that came
about by dotted keys. -/
def assignIn? (takesKeys : Bool) (key : String) (v : TomlValue) : List String → Draft → Option Draft
  | [], draft => match find? key draft with
    | some _ => none
    | none => if takesKeys then some (draft ++ [(key, .value v)]) else none
  | step :: path, draft => match find? step draft with
    | none =>
      (assignIn? true key v path []).map fun inner => draft ++ [(step, .table .dotted inner)]
    | some (.value _) => none
    | some (.items tables) =>
      (changeLast? (assignIn? false key v path) tables).map fun tables =>
        put step (.items tables) draft
    | some (.table .header _) => none
    | some (.table origin inner) =>
      (assignIn? (origin == .dotted) key v path inner).map fun inner =>
        put step (.table origin inner) draft

/-- Adds a value under a dotted key. -/
def assign? (path : List String) (key : String) (v : TomlValue) (draft : Draft) : Option Draft :=
  assignIn? true key v path draft

/-- Applies a change to the table at the end of a path of headers.  Tables that are missing on the
way are implied; of several tables the last one is meant. -/
def along? (change : Draft → Option Draft) : List String → Draft → Option Draft
  | [], draft => change draft
  | step :: path, draft => match find? step draft with
    | none => (along? change path []).map fun inner => draft ++ [(step, .table .implied inner)]
    | some (.value _) => none
    | some (.items tables) =>
      (changeLast? (along? change path) tables).map fun tables => put step (.items tables) draft
    | some (.table origin inner) =>
      (along? change path inner).map fun inner => put step (.table origin inner) draft

/-- Opens a table by its header.  One that was only implied so far may still be opened. -/
def openTable? (path : List String) (key : String) (draft : Draft) : Option Draft :=
  along? (fun draft => match find? key draft with
    | none => some (draft ++ [(key, .table .header [])])
    | some (.table .implied inner) => some (put key (.table .header inner) draft)
    | some _ => none) path draft

/-- Opens one more of several tables of one name. -/
def openItem? (path : List String) (key : String) (draft : Draft) : Option Draft :=
  along? (fun draft => match find? key draft with
    | none => some (draft ++ [(key, .items [[]])])
    | some (.items tables) => some (put key (.items (tables ++ [[]])) draft)
    | some _ => none) path draft

end Draft

mutual

def Part.toValue : Part → TomlValue
  | .value v => v
  | .table _ parts => .table (Draft.toEntries parts)
  | .items tables => .array (Draft.toTables tables)

/-- The entries of a table. -/
def Draft.toEntries : List (String × Part) → List (String × TomlValue)
  | [] => []
  | (key, part) :: parts => (key, part.toValue) :: Draft.toEntries parts

def Draft.toTables : List (List (String × Part)) → List TomlValue
  | [] => []
  | table :: tables => .table (Draft.toEntries table) :: Draft.toTables tables

end

end FormRules.Toml
