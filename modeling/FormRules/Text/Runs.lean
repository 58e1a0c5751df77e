import FormRules.Text.Hexadecimal

/-!
# Runs of code points

A property of characters is constant on long stretches of code points, so a table of it lists
only the code points where its value changes.  `Runs` is such a table, `Runs.get` reads it, and
`Runs.ofChanges` and `Runs.ofRanges` build it from the compact text in which the tables are kept.

The tables kept so are those of Unicode 16.0, as the `regex` library has them.
-/

namespace FormRules.Text

/-- A function on code points that is constant from each listed code point up to the next one. -/
structure Runs (α : Type) where
  /-- The value before the first listed code point. -/
  base : α
  /-- Code points in increasing order, each with the value that holds from it on. -/
  cells : Array (Nat × α)

namespace Runs

/-- Halves the stretch `lo ≤ i ≤ hi` of candidates for the number of cells that start at or
before `code`. -/
def countUpTo {α : Type} (cells : Array (Nat × α)) (code : Nat) : Nat → Nat → Nat → Nat
  | 0, lo, _ => lo
  | fuel + 1, lo, hi =>
    if lo < hi then
      let mid := (lo + hi) / 2
      match cells[mid]? with
      | none => lo
      | some (start, _) =>
        if start ≤ code then countUpTo cells code fuel (mid + 1) hi
        else countUpTo cells code fuel lo mid
    else lo

/-- The value at a code point. -/
def get {α : Type} (runs : Runs α) (code : Nat) : α :=
  let below := countUpTo runs.cells code 32 0 runs.cells.size
  match below with
  | 0 => runs.base
  | i + 1 => match runs.cells[i]? with
    | none => runs.base
    | some (_, value) => value

/-- The words of a text, cut at every `mark`. -/
def wordsAt (mark : Char) : List Char → List (List Char)
  | [] => [[]]
  | c :: rest =>
    if c = mark then [] :: wordsAt mark rest
    else match wordsAt mark rest with
      | [] => [[c]]
      | word :: words => (c :: word) :: words

/-- The words of a text that are separated by spaces and line ends. -/
def words (s : List Char) : List (List Char) :=
  (wordsAt ' ' (s.map fun c => if c = '\n' then ' ' else c)).filter (!·.isEmpty)

/-- Reads a table from words such as `Lu41`: a label of `width` characters, then the code point
in hexadecimal digits from which it holds. -/
def ofChanges {α : Type} (base : α) (width : Nat) (label : List Char → α) (text : String) :
    Runs α :=
  ⟨base, ((words text.toList).map fun word =>
    (hexValue (word.drop width), label (word.take width))).toArray⟩

/-- Reads a set from words such as `41-5A` and `AA`: ranges of code points in increasing order. -/
def ofRanges (text : String) : Runs Bool :=
  ⟨false, ((words text.toList).flatMap fun word =>
    match wordsAt '-' word with
    | [first] => [(hexValue first, true), (hexValue first + 1, false)]
    | first :: last :: _ => [(hexValue first, true), (hexValue last + 1, false)]
    | [] => []).toArray⟩

theorem get_empty {α : Type} (base : α) (code : Nat) : (Runs.mk base #[]).get code = base := rfl

end Runs

end FormRules.Text
