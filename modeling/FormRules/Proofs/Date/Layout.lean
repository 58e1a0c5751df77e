import FormRules.Date.Pattern
import FormRules.Proofs.Date.Digits
import FormRules.Proofs.Date.Gregorian
import FormRules.Proofs.Date.Pattern

/-!
# Patterns of padded numbers

Such a pattern puts together parts of a date and a time, each written as a number of a fixed width,
and literal characters.  `Layout` says which of these patterns make sense for dates, and
`formatFrom?_spelling` what their formats and their components are.
-/

namespace FormRules.Date

open FormRules.Text

/-! ### Parts -/

/-- A part of a date and a time that is written as a number of a fixed width. -/
inductive Part
  | year
  | month
  | day
  | hour
  | minute
  | second
  deriving DecidableEq, Repr

namespace Part

/-- The letter of a pattern that asks for the part. -/
def letter : Part → Char
  | year => 'Y'
  | month => 'm'
  | day => 'd'
  | hour => 'H'
  | minute => 'i'
  | second => 's'

def width : Part → Nat
  | year => 4
  | _ => 2

/-- The number where a pattern lacks the part: midnight on the first of January 2000. -/
def standard : Part → Nat
  | year => 2000
  | month => 1
  | day => 1
  | _ => 0

def component : Part → Component
  | year => .year
  | month => .month
  | day => .day
  | hour => .hour
  | minute => .minute
  | second => .second

theorem letterFormat_letter (part : Part) : ∃ field, letterFormat part.letter = some field ∧
    ∀ format, Item.ofFormat (field ++ format) =
      .field part.component true :: Item.ofFormat format := by
  cases part <;> exact ⟨_, rfl, fun _ => rfl⟩

end Part

/-! ### Moments -/

/-- A date and a time, with a year of four digits. -/
structure Moment where
  date : CalendarDate
  time : TimeOfDay
  year_range : 0 ≤ date.year ∧ date.year ≤ 9999
  isGregorian : IsGregorian date.year date.month date.day
  clock : time.hour < 24 ∧ time.minute < 60 ∧ time.second < 60

namespace Moment

def value (m : Moment) : Part → Nat
  | .year => m.date.year.toNat
  | .month => m.date.month
  | .day => m.date.day
  | .hour => m.time.hour
  | .minute => m.time.minute
  | .second => m.time.second

/-- The number of a part with zeros in front. -/
def text (m : Moment) (part : Part) : List Char :=
  (Nat.toDigits 10 (m.value part)).leftpad part.width '0'

end Moment

/-! ### Pieces -/

/-- A piece of a pattern: a part, or a character that stands for itself, behind a backslash or
not. -/
inductive Piece
  | part (p : Part)
  | literal (c : Char) (escaped : Bool)

namespace Piece

/-- The piece as it stands in a pattern. -/
def spelling : Piece → List Char
  | .part p => [p.letter]
  | .literal c true => ['\\', c]
  | .literal c false => [c]

/-- The piece as it stands in a value. -/
def text (m : Moment) : Piece → List Char
  | .part p => m.text p
  | .literal c _ => [c]

def part? : Piece → Option Part
  | .part p => some p
  | .literal _ _ => none

def isBlank : Piece → Bool
  | .part _ => false
  | .literal c _ => Text.isBlank c

/-- Only where a backslash stands in front do letters and backslashes stand for themselves. -/
def IsPlain : Piece → Prop
  | .literal c false => c.isAlpha = false ∧ c ≠ '\\'
  | _ => True

instance : DecidablePred IsPlain
  | .literal c false => inferInstanceAs (Decidable (c.isAlpha = false ∧ c ≠ '\\'))
  | .literal _ true => .isTrue trivial
  | .part _ => .isTrue trivial

end Piece

/-- A pattern of padded numbers and literal characters.  It asks for a part of a date or for an hour
or a minute, for seconds only beside these, and neither starts nor ends with a blank character. -/
structure Layout where
  pieces : List Piece
  plain : ∀ piece ∈ pieces, piece.IsPlain
  carries : ∃ part ∈ pieces.filterMap Piece.part?, part ≠ .second
  seconds : .second ∈ pieces.filterMap Piece.part? →
    .hour ∈ pieces.filterMap Piece.part? ∨ .minute ∈ pieces.filterMap Piece.part?
  starts : ∀ piece, pieces.head? = some piece → piece.isBlank = false
  ends : ∀ piece, pieces.getLast? = some piece → piece.isBlank = false

namespace Layout

def parts (layout : Layout) : List Part := layout.pieces.filterMap Piece.part?

def spelling (layout : Layout) : List Char := layout.pieces.flatMap Piece.spelling

/-- What a date and a time look like under the pattern. -/
def text (layout : Layout) (m : Moment) : List Char := layout.pieces.flatMap (Piece.text m)

end Layout

/-! ### Formats -/

theorem letterFormat_of_not_isAlpha {c : Char} (h : c.isAlpha = false) : letterFormat c = none := by
  unfold letterFormat
  split <;> first | rfl | exact absurd h (by decide)

theorem isReservedLetter_of_not_isAlpha {c : Char} (h : c.isAlpha = false) :
    isReservedLetter c = false := by
  have hletters : ∀ d ∈ "NSwzWLoXxBuveIOPpTZcr".toList, d.isAlpha = true :=
    List.all_eq_true.1 (by decide)
  rw [isReservedLetter, ← Bool.not_eq_true, List.contains_iff_mem]
  intro hmem
  rw [hletters c hmem] at h
  exact nomatch h

namespace DatePattern

variable {components : Components} {c : Char}

theorem formatFrom?_letter {field : List Char} (h : letterFormat c = some field)
    (rest : List Char) :
    formatFrom? components (c :: rest) =
      (formatFrom? (components.add c) rest).map fun (format, components) =>
        (field ++ format, components) := by
  have hslash : c ≠ '\\' := by
    intro heq
    rw [heq] at h
    exact nomatch h
  rw [formatFrom?]
  · rw [h]
  · exact fun heq _ => hslash heq
  · exact fun _ _ heq _ => hslash heq

theorem formatFrom?_plain (halpha : c.isAlpha = false) (hslash : c ≠ '\\') (rest : List Char) :
    formatFrom? components (c :: rest) =
      (formatFrom? components rest).map fun (format, components) =>
        (literalFormat c ++ format, components) := by
  rw [formatFrom?]
  · rw [letterFormat_of_not_isAlpha halpha, isReservedLetter_of_not_isAlpha halpha]
    rfl
  · exact fun heq _ => hslash heq
  · exact fun _ _ heq _ => hslash heq

end DatePattern

/-- The components of a pattern that asks for parts. -/
def carried (parts : List Part) : Components where
  year := .year ∈ parts
  month := .month ∈ parts
  day := .day ∈ parts
  hour := .hour ∈ parts
  minute := .minute ∈ parts

/-- The parts that a date and a time need, where a pattern is about them. -/
def completion (components : Components) : List Part :=
  (if components.concernsDate then [.year, .month, .day] else []) ++
    if components.concernsTime then [.hour, .minute] else []

theorem add_carried (parts : List Part) (part : Part) :
    (carried parts).add part.letter = carried (parts ++ [part]) := by
  cases part <;> simp [Components.add, carried, Part.letter]

namespace Piece

/-- The items of a format that starts with a piece. -/
def put : Piece → List Item → List Item
  | .part p, items => .field p.component true :: items
  | .literal c _, items => if c = '%' then .literal [c] :: items else Item.consChar c items

end Piece

theorem ofFormat_literalFormat (c : Char) (format : List Char) :
    Item.ofFormat (literalFormat c ++ format) =
      if c = '%' then .literal [c] :: Item.ofFormat format
      else Item.consChar c (Item.ofFormat format) := by
  rw [literalFormat]
  split
  · rename_i hc
    rw [hc]
    rfl
  · rename_i hc
    exact Item.ofFormat_cons hc format

/-- The format of a pattern of pieces has their items, and its components are those of the parts. -/
theorem formatFrom?_spelling {pieces : List Piece} (hplain : ∀ piece ∈ pieces, piece.IsPlain)
    (before : List Part) :
    ∃ format, DatePattern.formatFrom? (carried before) (pieces.flatMap Piece.spelling) =
        some (format, carried (before ++ pieces.filterMap Piece.part?)) ∧
      Item.ofFormat format = pieces.foldr Piece.put [] := by
  -- the components on the way are those of the parts before
  induction pieces generalizing before with
  | nil => exact ⟨[], by rw [List.filterMap_nil, List.append_nil]; rfl, rfl⟩
  | cons piece pieces ih =>
    obtain ⟨hpiece, hpieces⟩ := List.forall_mem_cons.1 hplain
    cases piece with
    | part p =>
      obtain ⟨field, hletter, hitem⟩ := p.letterFormat_letter
      obtain ⟨format, hformat, hitems⟩ := ih hpieces (before ++ [p])
      refine ⟨field ++ format, ?_, ?_⟩
      · rw [List.flatMap_cons, Piece.spelling, List.singleton_append,
          DatePattern.formatFrom?_letter hletter, add_carried, hformat, List.append_assoc]
        rfl
      · rw [hitem, hitems]
        rfl
    | literal c escaped =>
      obtain ⟨format, hformat, hitems⟩ := ih hpieces before
      refine ⟨literalFormat c ++ format, ?_, ?_⟩
      · cases escaped with
        | false =>
          rw [List.flatMap_cons, Piece.spelling, List.singleton_append,
            DatePattern.formatFrom?_plain hpiece.1 hpiece.2, hformat]
          rfl
        | true =>
          have hstep : DatePattern.formatFrom? (carried before)
              ('\\' :: c :: pieces.flatMap Piece.spelling) =
              (DatePattern.formatFrom? (carried before) (pieces.flatMap Piece.spelling)).map
                fun (format, components) => (literalFormat c ++ format, components) := by
            rw [DatePattern.formatFrom?]
          rw [List.flatMap_cons, Piece.spelling, List.cons_append, List.singleton_append, hstep,
            hformat]
          rfl
      · rw [ofFormat_literalFormat, hitems]
        rfl

end FormRules.Date
