import FormRules.Proofs.Date.Mark
import FormRules.Proofs.Date.Missing

/-!
# Patterns that some value fits

A pattern of padded numbers may ask for noon too.  Beside the hour every date and time can be read
under it; without the hour the time remains unknown, and seconds alone are not about a time.
`LetterPattern.exists_isDateUnder_iff` tells the patterns that some value fits from those that no
value does.

`fill_defaults` documents that whatever a pattern lacks is filled in.
-/

namespace FormRules

open FormRules.Text FormRules.Date

namespace Date

/-- The letter of the table that a mark is. -/
def Mark.letter? : Mark → Option Char
  | bare c _ => if (letterFormat c).isSome then some c else none
  | escaped _ => none

def letters (marks : List Mark) : List Char := marks.filterMap Mark.letter?

/-- A pattern that has a format, whose letters ask for padded numbers and for noon, and that neither
starts nor ends with a blank character. -/
structure LetterPattern where
  marks : List Mark
  translates : (DatePattern.format? (spelled marks)).isSome = true
  carries : letters marks ≠ []
  plain : letters marks ⊆ ['Y', 'm', 'd', 'H', 'i', 's', 'A', 'a']
  starts : ∀ mark, marks.head? = some mark → isBlank mark.char = false
  ends : ∀ mark, marks.getLast? = some mark → isBlank mark.char = false

def LetterPattern.letters (pattern : LetterPattern) : List Char := Date.letters pattern.marks

def LetterPattern.text (pattern : LetterPattern) : String := String.ofList (spelled pattern.marks)

/-! ### Cells -/

/-- A mark of such a pattern, by what it stands for. -/
inductive Cell
  | part (p : Part)
  | meridiem (upper : Bool)
  | literal (mark : Mark) (plain : mark.letter? = none)

namespace Cell

def mark : Cell → Mark
  | part p => .bare p.letter (by cases p <;> decide)
  | meridiem upper => .bare (if upper then 'A' else 'a') (by cases upper <;> decide)
  | literal mark _ => mark

def part? : Cell → Option Part
  | part p => some p
  | _ => none

def isMeridiem : Cell → Bool
  | meridiem _ => true
  | _ => false

theorem exists_mark {mark : Mark}
    (h : ∀ c, mark.letter? = some c → c ∈ ['Y', 'm', 'd', 'H', 'i', 's', 'A', 'a']) :
    ∃ cell : Cell, cell.mark = mark := by
  cases hletter : mark.letter? with
  | none => exact ⟨literal mark hletter, rfl⟩
  | some c =>
    have hmem := h c hletter
    cases mark with
    | escaped d => simp only [Mark.letter?, reduceCtorEq] at hletter
    | bare d hd =>
      rw [Mark.letter?] at hletter
      split at hletter
      · obtain rfl : d = c := Option.some.inj hletter
        simp only [List.mem_cons, List.not_mem_nil, or_false] at hmem
        rcases hmem with rfl | rfl | rfl | rfl | rfl | rfl | rfl | rfl
        · exact ⟨part .year, rfl⟩
        · exact ⟨part .month, rfl⟩
        · exact ⟨part .day, rfl⟩
        · exact ⟨part .hour, rfl⟩
        · exact ⟨part .minute, rfl⟩
        · exact ⟨part .second, rfl⟩
        · exact ⟨meridiem true, rfl⟩
        · exact ⟨meridiem false, rfl⟩
      · cases hletter

theorem exists_marks {marks : List Mark}
    (h : letters marks ⊆ ['Y', 'm', 'd', 'H', 'i', 's', 'A', 'a']) :
    ∃ cells : List Cell, cells.map mark = marks := by
  induction marks with
  | nil => exact ⟨[], rfl⟩
  | cons mark marks ih =>
    obtain ⟨cell, hcell⟩ : ∃ cell : Cell, cell.mark = mark := by
      refine exists_mark fun c hc => h ?_
      exact List.mem_filterMap.2 ⟨mark, List.mem_cons_self, hc⟩
    obtain ⟨cells, hcells⟩ := ih fun c hc => h (by
      obtain ⟨other, hother, hletter⟩ := List.mem_filterMap.1 hc
      exact List.mem_filterMap.2 ⟨other, List.mem_cons_of_mem mark hother, hletter⟩)
    exact ⟨cell :: cells, by rw [List.map_cons, hcell, hcells]⟩

def put : Cell → List Item → List Item
  | part p, items => .field p.component true :: items
  | meridiem upper, items => .field (.meridiem upper) true :: items
  | literal mark _, items => Piece.put (.literal mark.char true) items

end Cell

theorem Mark.field?_of_letter? {mark : Mark} (h : mark.letter? = none) :
    mark.field? = none ∧ ∀ components, mark.carry components = components := by
  cases mark with
  | escaped c => exact ⟨rfl, fun _ => rfl⟩
  | bare c hc =>
    cases hletter : letterFormat c with
    | none => exact letterField?_of_letterFormat hletter
    | some text =>
      rw [letter?, hletter, Option.isSome_some, if_pos rfl] at h
      cases h

theorem Cell.put_mark (cell : Cell) (items : List Item) : cell.mark.put items = cell.put items := by
  cases cell with
  | part p => cases p <;> rfl
  | meridiem upper => cases upper <;> rfl
  | literal mark plain =>
    rw [Cell.mark, Mark.put, (Mark.field?_of_letter? plain).1]
    rfl

/-! ### Parts and noon -/

def parts (cells : List Cell) : List Part := cells.filterMap Cell.part?

def asksNoon (cells : List Cell) : Bool := cells.any Cell.isMeridiem

section Letters

variable {pattern : LetterPattern} {cells : List Cell}
  (hcells : cells.map Cell.mark = pattern.marks)

include hcells

theorem mem_letters {c : Char} :
    c ∈ pattern.letters ↔ ∃ cell ∈ cells, cell.mark.letter? = some c := by
  rw [LetterPattern.letters, ← hcells, letters, List.filterMap_map, List.mem_filterMap]
  rfl

theorem letter_mem_iff (part : Part) : part.letter ∈ pattern.letters ↔ part ∈ parts cells := by
  have hcell : ∀ cell : Cell, cell.mark.letter? = some part.letter ↔ cell.part? = some part := by
    intro cell
    cases cell with
    | part p => cases p <;> cases part <;> decide
    | meridiem upper => cases upper <;> cases part <;> decide
    | literal mark plain => simp only [Cell.mark, plain, Cell.part?, reduceCtorEq]
  simp only [mem_letters hcells, parts, List.mem_filterMap, hcell]

theorem asksNoon_iff :
    'A' ∈ pattern.letters ∨ 'a' ∈ pattern.letters ↔ asksNoon cells = true := by
  have hcell : ∀ cell : Cell,
      cell.mark.letter? = some 'A' ∨ cell.mark.letter? = some 'a' ↔ cell.isMeridiem = true := by
    intro cell
    cases cell with
    | part p => cases p <;> decide
    | meridiem upper => cases upper <;> decide
    | literal mark plain =>
      simp only [Cell.mark, plain, Cell.isMeridiem, reduceCtorEq, or_self, Bool.false_eq_true]
  simp only [mem_letters hcells, ← exists_or, ← and_or_left, hcell, asksNoon, List.any_eq_true]

end Letters

/-- The components of a pattern that asks for parts, and for noon or not. -/
def carriedWith (parts : List Part) (noon : Bool) : Components :=
  { carried parts with meridiem := noon }

theorem carry_foldl (cells : List Cell) (before : List Part) (noon : Bool) :
    (cells.map Cell.mark).foldl Mark.carry (carriedWith before noon) =
      carriedWith (before ++ parts cells) (noon || asksNoon cells) := by
  induction cells generalizing before noon with
  | nil => simp [parts, asksNoon]
  | cons cell cells ih =>
    rw [List.map_cons, List.foldl_cons]
    cases cell with
    | part p =>
      have hadd : Mark.carry (carriedWith before noon) (Cell.part p).mark =
          carriedWith (before ++ [p]) noon := by
        cases p <;> simp [Mark.carry, Cell.mark, Components.add, carriedWith, carried, Part.letter]
      rw [hadd, ih, List.append_assoc]
      rfl
    | meridiem upper =>
      have hadd : Mark.carry (carriedWith before noon) (Cell.meridiem upper).mark =
          carriedWith before true := by
        cases upper <;> rfl
      rw [hadd, ih, Bool.true_or]
      cases noon <;> rfl
    | literal mark plain =>
      rw [Cell.mark, (Mark.field?_of_letter? plain).2, ih]
      rfl

namespace LetterPattern

/-- A value fits the pattern if what is read under its cells is written as the same text. -/
theorem exists_cells (pattern : LetterPattern) : ∃ cells : List Cell,
    cells.map Cell.mark = pattern.marks ∧
    ∀ value, isDateUnder value pattern.text =
      (readAndWrite (carriedWith (parts cells) (asksNoon cells)) (cells.foldr Cell.put [])
        (trim value.toList) == some (trim value.toList)) := by
  obtain ⟨cells, hcells⟩ := Cell.exists_marks pattern.plain
  refine ⟨cells, hcells, fun value => ?_⟩
  have hfree : ¬pattern.marks.any Mark.isReserved = true := by
    intro hreserved
    have htranslates := pattern.translates
    rw [format?_spelled, if_pos hreserved] at htranslates
    exact nomatch htranslates
  have hcomponents : pattern.marks.foldl Mark.carry {} =
      carriedWith (parts cells) (asksNoon cells) := by
    rw [← hcells]
    exact carry_foldl cells [] false
  have hitems : Item.ofFormat (pattern.marks.flatMap Mark.format) = cells.foldr Cell.put [] := by
    rw [ofFormat_marks, ← hcells, List.foldr_map]
    simp only [Cell.put_mark]
  unfold isDateUnder
  rw [text, String.toList_ofList, format?_spelled, if_neg hfree]
  simp only [hcomponents, hitems]

end LetterPattern

/-! ### Patterns that no value fits -/

theorem Item.field_mem_consChar {component : Component} {padded : Bool} (c : Char)
    (items : List Item) : field component padded ∈ consChar c items ↔
      field component padded ∈ items := by
  unfold consChar
  split
  · split <;> simp
  · split <;> simp

theorem Piece.field_mem_put {component : Component} {padded : Bool} (c : Char) (escaped : Bool)
    (items : List Item) : .field component padded ∈ put (.literal c escaped) items ↔
      .field component padded ∈ items := by
  rw [put]
  split
  · simp
  · exact Item.field_mem_consChar c items

theorem Cell.field_mem_items {component : Component} {padded : Bool} (cells : List Cell) :
    .field component padded ∈ cells.foldr put [] ↔
      ∃ cell ∈ cells, .field component padded ∈ cell.put [] := by
  induction cells with
  | nil => simp
  | cons cell cells ih =>
    rw [List.foldr_cons, List.exists_mem_cons_iff, ← ih]
    cases cell with
    | part p => simp [put]
    | meridiem upper => simp [put]
    | literal mark plain => simp [put, Piece.field_mem_put]

theorem second_mem_items {cells : List Cell} (h : .second ∈ parts cells) :
    .field .second true ∈ cells.foldr Cell.put [] := by
  obtain ⟨cell, hmem, hpart⟩ := List.mem_filterMap.1 h
  cases cell with
  | part p =>
    obtain rfl : p = .second := Option.some.inj hpart
    exact (Cell.field_mem_items cells).2 ⟨.part .second, hmem, List.mem_cons_self⟩
  | _ => exact nomatch hpart

theorem bringsHour_of_mem_items {cells : List Cell} (hhour : .hour ∉ parts cells)
    (component : Component) (padded : Bool)
    (h : .field component padded ∈ cells.foldr Cell.put []) : component.bringsHour = false := by
  obtain ⟨cell, hmem, hfield⟩ := (Cell.field_mem_items cells).1 h
  cases cell with
  | part p =>
    obtain ⟨rfl, -⟩ := Item.field.inj (List.mem_singleton.1 hfield)
    cases p with
    | hour =>
      have hpart : .hour ∈ parts cells := List.mem_filterMap.2 ⟨.part .hour, hmem, rfl⟩
      exact absurd hpart hhour
    | _ => rfl
  | meridiem upper =>
    obtain ⟨rfl, -⟩ := Item.field.inj (List.mem_singleton.1 hfield)
    rfl
  | literal mark plain =>
    rw [Cell.put, Piece.field_mem_put] at hfield
    exact nomatch hfield

namespace LetterPattern

variable (pattern : LetterPattern)

theorem isDateUnder_of_noon (hnoon : 'A' ∈ pattern.letters ∨ 'a' ∈ pattern.letters)
    (hhour : 'H' ∉ pattern.letters) (value : String) : isDateUnder value pattern.text = false := by
  obtain ⟨cells, hcells, hfits⟩ := pattern.exists_cells
  have hasks : (carriedWith (parts cells) (asksNoon cells)).meridiem = true :=
    (asksNoon_iff hcells).1 hnoon
  have hlacks : .hour ∉ parts cells := fun hmem => hhour ((letter_mem_iff hcells .hour).2 hmem)
  rw [hfits, readAndWrite_of_meridiem hasks (bringsHour_of_mem_items hlacks)]
  rfl

theorem isDateUnder_of_second (hsecond : 's' ∈ pattern.letters) (hhour : 'H' ∉ pattern.letters)
    (hminute : 'i' ∉ pattern.letters) (value : String) :
    isDateUnder value pattern.text = false := by
  by_cases hnoon : 'A' ∈ pattern.letters ∨ 'a' ∈ pattern.letters
  · exact pattern.isDateUnder_of_noon hnoon hhour value
  · obtain ⟨cells, hcells, hfits⟩ := pattern.exists_cells
    have hmem : .second ∈ parts cells := (letter_mem_iff hcells .second).1 hsecond
    have hlacksHour : .hour ∉ parts cells := fun h => hhour ((letter_mem_iff hcells .hour).2 h)
    have hlacksMinute : .minute ∉ parts cells :=
      fun h => hminute ((letter_mem_iff hcells .minute).2 h)
    rw [asksNoon_iff hcells, Bool.not_eq_true] at hnoon
    have htime : (carriedWith (parts cells) (asksNoon cells)).concernsTime = false := by
      simp only [Components.concernsTime, carriedWith, carried, hnoon, hlacksHour, hlacksMinute,
        decide_false, Bool.or_self]
    rw [hfits, readAndWrite_of_second htime (second_mem_items hmem)]
    rfl

end LetterPattern

/-! ### Reading beside noon -/

def Cell.text (m : Moment) : Cell → List Char
  | part p => m.text p
  | meridiem upper => match m.time.isAfternoon, upper with
    | false, false => ['a', 'm']
    | false, true => ['A', 'M']
    | true, false => ['p', 'm']
    | true, true => ['P', 'M']
  | literal mark _ => [mark.char]

theorem Part.enter_afternoon {part : Part} (h : part ≠ .hour) (fields : Fields)
    (afternoon : Option Bool) (n : Int) :
    part.enter { fields with afternoon } n =
      (part.enter fields n).map fun fields => { fields with afternoon } := by
  cases part with
  | hour => exact absurd rfl h
  | _ =>
    simp only [Part.enter, Fields.setYear, Fields.setMonth, Fields.setDay, Fields.setMinute,
      Fields.setSecond, Except.map]
    split
    · split <;> rfl
    · rfl

namespace Moment

variable (m : Moment)

/-- The fields where some parts are known, and noon too or not. -/
def fieldsWith (parts : List Part) (noon : Bool) : Fields :=
  { m.fields parts with
    afternoon := if .hour ∈ parts ∨ noon = true then some m.time.isAfternoon else none }

theorem fieldsWith_false (parts : List Part) : m.fieldsWith parts false = m.fields parts := by
  simp only [fieldsWith, fields, Bool.false_eq_true, or_false, TimeOfDay.isAfternoon]

theorem fieldsWith_of_hour {parts : List Part} (h : .hour ∈ parts) (noon : Bool) :
    m.fieldsWith parts noon = m.fields parts := by
  simp only [fieldsWith, fields, h, true_or, TimeOfDay.isAfternoon]

theorem setAfternoon_fieldsWith (parts : List Part) (noon : Bool) :
    (m.fieldsWith parts noon).setAfternoon m.time.isAfternoon = .ok (m.fieldsWith parts true) := by
  rw [Fields.setAfternoon, fieldsWith, Fields.agree_ite]
  simp [fieldsWith, Except.map]

theorem enter_fieldsWith (part : Part) (parts : List Part) (noon : Bool) :
    part.enter (m.fieldsWith parts noon) (m.value part) =
      .ok (m.fieldsWith (parts ++ [part]) noon) := by
  by_cases hhour : part = .hour
  · have hclock := m.clock
    have hafternoon : decide ((12 : Int) ≤ m.time.hour) = m.time.isAfternoon := by
      rw [TimeOfDay.isAfternoon, decide_eq_decide]
      omega
    rw [hhour, Part.enter, value, Fields.setHour, if_pos (by omega), Int.toNat_natCast, hafternoon,
      setAfternoon_fieldsWith]
    simp [fieldsWith, fields, Except.map, Fields.agree_ite]
  · have hother : ¬.hour = part := fun heq => hhour heq.symm
    rw [fieldsWith, Part.enter_afternoon hhour, m.enter_fields]
    simp [fieldsWith, Except.map, hother]

theorem component?_meridiem (upper : Bool) (parts : List Part) (noon : Bool) (rest : List Char) :
    Reading.component? (.meridiem upper) (m.fieldsWith parts noon)
        ((Cell.meridiem upper).text m ++ rest) =
      some (m.fieldsWith parts true, rest) := by
  have hset := m.setAfternoon_fieldsWith parts noon
  cases hafternoon : m.time.isAfternoon <;> rw [hafternoon] at hset <;> cases upper <;>
    simp [Reading.component?, Reading.startsWith, Cell.text, hafternoon, hset]

theorem solid_cell (cell : Cell) (h : isBlank cell.mark.char = false) :
    cell.text m ≠ [] ∧ StartsSolid (cell.text m) ∧ EndsSolid (cell.text m) := by
  cases cell with
  | part p => exact m.solid_text p
  | meridiem upper =>
    cases hafternoon : m.time.isAfternoon <;> cases upper <;>
      simp [Cell.text, hafternoon, StartsSolid, EndsSolid] <;> decide
  | literal mark plain =>
    have hpiece : (Piece.literal mark.char true).isBlank = false := h
    exact m.solid_piece hpiece

theorem fields?_cells (cells : List Cell) :
    Reading.fields? (cells.foldr Cell.put []) {} (cells.flatMap (Cell.text m)) =
      some (m.fieldsWith (parts cells) (asksNoon cells)) := by
  let known (read : List Cell) : Fields := m.fieldsWith (parts read) (asksNoon read)
  have hstart : ({} : Fields) = known [] := (m.fieldsWith_false []).symm
  rw [hstart]
  refine Reading.fields?_foldr (fun cell read items s hs => ?_) (fun cell items s => ?_) cells []
  · have hparts : parts (read ++ [cell]) = parts read ++ cell.part?.toList := by
      rw [parts, List.filterMap_append, List.filterMap_cons]
      cases cell <;> rfl
    have hnoon : asksNoon (read ++ [cell]) = (asksNoon read || cell.isMeridiem) := by
      rw [asksNoon, List.any_append, List.any_cons, List.any_nil, Bool.or_false, asksNoon]
    simp only [known, hparts, hnoon]
    cases cell with
    | part p =>
      simp only [Cell.isMeridiem, Bool.or_false]
      rw [Cell.put, Cell.text, Reading.fields?, m.component?_of_enter (m.enter_fieldsWith p _ _)]
      rfl
    | meridiem upper =>
      simp only [Cell.part?, Option.toList_none, List.append_nil, Cell.isMeridiem, Bool.or_true]
      rw [Cell.put, Reading.fields?, m.component?_meridiem]
    | literal mark plain =>
      simp only [Cell.part?, Option.toList_none, List.append_nil, Cell.isMeridiem, Bool.or_false]
      rw [Cell.put, Cell.text, List.singleton_append, Reading.fields?_put_literal hs]
  · cases cell with
    | part p => exact Or.inr ((m.solid_text p).2.1.append (m.solid_text p).1 s)
    | meridiem upper =>
      have hsolid := m.solid_cell (.meridiem upper) (by cases upper <;> decide)
      exact Or.inr (hsolid.2.1.append hsolid.1 s)
    | literal mark plain => exact Piece.keepsBlanks_put mark.char true items s

theorem text?_cells (cells : List Cell) {date : Option CalendarDate} {time : Option TimeOfDay}
    (hdate : ∀ part ∈ parts cells, part.isOfDate = true → date = some m.date)
    (htime : ∀ part ∈ parts cells, part.isOfDate = false → time = some m.time)
    (hnoon : asksNoon cells = true → time = some m.time) :
    Writing.text? date time (cells.foldr Cell.put []) = some (cells.flatMap (Cell.text m)) := by
  refine Writing.text?_foldr fun cell hcell items => ?_
  cases cell with
  | part p =>
    have hpart : p ∈ parts cells := List.mem_filterMap.2 ⟨.part p, hcell, rfl⟩
    exact Writing.text?_field (m.component?_write (hdate p hpart) (htime p hpart)) items
  | meridiem upper =>
    have hasks : asksNoon cells = true := List.any_eq_true.2 ⟨.meridiem upper, hcell, rfl⟩
    have hwritten : Writing.component? date time true (.meridiem upper) =
        some ((Cell.meridiem upper).text m) := by
      rw [hnoon hasks]
      rfl
    exact Writing.text?_field hwritten items
  | literal mark plain => exact Writing.text?_put_literal date time mark.char true items

end Moment

/-! ### Completion and writing beside noon -/

theorem carriedWith_concernsTime {parts : List Part} {noon : Bool}
    (hnoon : noon = true → .hour ∈ parts) :
    (carriedWith parts noon).concernsTime = (carried parts).concernsTime := by
  cases noon with
  | false => rfl
  | true => simp [Components.concernsTime, carriedWith, carried, hnoon rfl]

theorem render_carriedWith {parts : List Part} {noon : Bool} (hnoon : noon = true → .hour ∈ parts)
    (items : List Item) (fields : Fields) :
    render (carriedWith parts noon) items fields = render (carried parts) items fields := by
  have hdate : (carriedWith parts noon).concernsDate = (carried parts).concernsDate := rfl
  unfold render
  rw [hdate, carriedWith_concernsTime hnoon]

theorem completed_carriedWith {parts : List Part} {noon : Bool}
    (hnoon : noon = true → .hour ∈ parts) (fields : Fields) :
    completed (carriedWith parts noon) fields = completed (carried parts) fields := by
  cases noon with
  | false => rfl
  | true =>
    have hhour : (carried parts).hour = true := decide_eq_true (hnoon rfl)
    have hhourWith : (carriedWith parts true).hour = true := hhour
    have htwelve : (carried parts).twelveHour = false := rfl
    have htwelveWith : (carriedWith parts true).twelveHour = false := rfl
    -- noon matters only where the hour is missing or on a clock face
    rw [completed, completed, carriedWith_concernsTime hnoon, hhour, hhourWith, htwelve,
      htwelveWith, Bool.not_true, Bool.and_false, Bool.false_and, Bool.false_and]
    rfl

/-- What a date and a time look like in the cells is read and written again, if noon is asked for
only beside the hour. -/
theorem readAndWrite_cells (m : Moment) {cells : List Cell}
    (hcarries : ∃ part ∈ parts cells, part ≠ .second)
    (hnoon : asksNoon cells = true → .hour ∈ parts cells)
    (hseconds : .second ∈ parts cells → .hour ∈ parts cells ∨ .minute ∈ parts cells)
    (hstandard : ∀ part, part ∉ parts cells → m.value part = part.standard) :
    readAndWrite (carriedWith (parts cells) (asksNoon cells)) (cells.foldr Cell.put [])
        (cells.flatMap (Cell.text m)) =
      some (cells.flatMap (Cell.text m)) := by
  have hread : Reading.fields? (cells.foldr Cell.put []) {} (cells.flatMap (Cell.text m)) =
      some (m.fields (parts cells)) := by
    have hknown : m.fieldsWith (parts cells) (asksNoon cells) = m.fields (parts cells) := by
      cases hasks : asksNoon cells with
      | false => exact m.fieldsWith_false _
      | true => exact m.fieldsWith_of_hour (hnoon hasks) true
    rw [m.fields?_cells, hknown]
  have hrender : render (carried (parts cells)) (cells.foldr Cell.put [])
      (m.fields (parts cells ++ completion (carried (parts cells)))) =
        some (cells.flatMap (Cell.text m)) :=
    m.render_carried hcarries hseconds hstandard fun date time hdate htime =>
      m.text?_cells cells hdate htime fun hasks => htime .hour (hnoon hasks) rfl
  rw [readAndWrite, hread]
  simp only [if_neg (m.second_fields_ne (parts cells)), completed_carriedWith hnoon,
    m.completed_fields hstandard, render_carriedWith hnoon, hrender]

/-! ### Patterns of letters -/

def newYear : Moment where
  date := ⟨2000, 1, 1⟩
  time := ⟨0, 0, 0⟩
  year_range := by decide
  isGregorian := isGregorian_iff.2 (by decide)
  clock := by decide

theorem newYear_value (part : Part) : newYear.value part = part.standard := by
  cases part <;> rfl

namespace LetterPattern

variable (pattern : LetterPattern)

theorem trim_cells {cells : List Cell} (hcells : cells.map Cell.mark = pattern.marks)
    (m : Moment) : trim (cells.flatMap (Cell.text m)) = cells.flatMap (Cell.text m) := by
  refine trim_flatMap (fun cell hcell => ?_) fun cell hcell => ?_
  · have hmark : pattern.marks.head? = some cell.mark := by
      rw [← hcells, List.head?_map, hcell, Option.map_some]
    exact (m.solid_cell cell (pattern.starts _ hmark)).imp_right And.left
  · have hmark : pattern.marks.getLast? = some cell.mark := by
      rw [← hcells, List.getLast?_map, hcell, Option.map_some]
    exact (m.solid_cell cell (pattern.ends _ hmark)).imp_right And.right

theorem exists_part {cells : List Cell} (hcells : cells.map Cell.mark = pattern.marks)
    (hnoon : asksNoon cells = true → .hour ∈ parts cells)
    (hseconds : .second ∈ parts cells → .hour ∈ parts cells ∨ .minute ∈ parts cells) :
    ∃ part ∈ parts cells, part ≠ .second := by
  obtain ⟨c, hc⟩ := List.exists_mem_of_ne_nil _ pattern.carries
  obtain ⟨cell, hmem, hletter⟩ := (mem_letters hcells).1 hc
  cases cell with
  | part p =>
    have hpart : p ∈ parts cells := List.mem_filterMap.2 ⟨.part p, hmem, rfl⟩
    by_cases hsecond : p = .second
    · rw [hsecond] at hpart
      cases hseconds hpart with
      | inl hhour => exact ⟨.hour, hhour, nofun⟩
      | inr hminute => exact ⟨.minute, hminute, nofun⟩
    · exact ⟨p, hpart, hsecond⟩
  | meridiem upper =>
    have hasks : asksNoon cells = true := List.any_eq_true.2 ⟨.meridiem upper, hmem, rfl⟩
    exact ⟨.hour, hnoon hasks, nofun⟩
  | literal mark plain => exact nomatch plain.symm.trans hletter

/-- Some value fits a pattern of letters if and only if the pattern asks for noon only beside the
hour, and for seconds only beside the hour or the minute. -/
theorem exists_isDateUnder_iff :
    (∃ value, isDateUnder value pattern.text = true) ↔
      ('A' ∈ pattern.letters ∨ 'a' ∈ pattern.letters → 'H' ∈ pattern.letters) ∧
      ('s' ∈ pattern.letters → 'H' ∈ pattern.letters ∨ 'i' ∈ pattern.letters) := by
  constructor
  · intro ⟨value, hvalue⟩
    have haccepted : isDateUnder value pattern.text ≠ false := Bool.eq_false_iff.not_left.2 hvalue
    refine ⟨fun hnoon => ?_, fun hsecond => ?_⟩
    · by_contra hhour
      exact haccepted (pattern.isDateUnder_of_noon hnoon hhour value)
    · by_contra hlacks
      obtain ⟨hhour, hminute⟩ := not_or.1 hlacks
      exact haccepted (pattern.isDateUnder_of_second hsecond hhour hminute value)
  · intro h
    obtain ⟨cells, hcells, hfits⟩ := pattern.exists_cells
    have hhour : 'H' ∈ pattern.letters ↔ .hour ∈ parts cells := letter_mem_iff hcells .hour
    have hminute : 'i' ∈ pattern.letters ↔ .minute ∈ parts cells := letter_mem_iff hcells .minute
    have hsecond : 's' ∈ pattern.letters ↔ .second ∈ parts cells := letter_mem_iff hcells .second
    rw [asksNoon_iff hcells, hhour, hminute, hsecond] at h
    obtain ⟨hnoon, hseconds⟩ := h
    refine ⟨String.ofList (cells.flatMap (Cell.text newYear)), ?_⟩
    rw [hfits, String.toList_ofList, pattern.trim_cells hcells, beq_iff_eq]
    exact readAndWrite_cells newYear (pattern.exists_part hcells hnoon hseconds) hnoon hseconds
      fun part _ => newYear_value part

/-- Noon beside the hour: the afternoon has its own half of the day. -/
theorem exists_isDateUnder_iff_hour :
    let clock : LetterPattern := {
      marks := [.bare 'H' (by decide), .bare ':' (by decide), .bare 'i' (by decide),
        .bare ' ' (by decide), .bare 'A' (by decide)]
      translates := by decide
      carries := by decide
      plain := by decide
      starts := by decide
      ends := by decide }
    clock.text = "H:i A" ∧ 'A' ∈ clock.letters ∧ 'H' ∈ clock.letters ∧ 's' ∉ clock.letters ∧
      (∃ value, isDateUnder value "H:i A" = true) ∧ isDateUnder "13:07 PM" "H:i A" = true ∧
      isDateUnder "13:07 AM" "H:i A" = false := by
  intro clock
  have hhour : 'H' ∈ clock.letters := by decide
  have hsecond : 's' ∉ clock.letters := by decide
  have hfits : ∃ value, isDateUnder value "H:i A" = true :=
    clock.exists_isDateUnder_iff.2 ⟨fun _ => hhour, fun hmem => absurd hmem hsecond⟩
  exact ⟨rfl, by decide, hhour, hsecond, hfits, by decide +kernel, by decide +kernel⟩

/-- Seconds alone fit no value, not even the first second of the day, and neither does noon. -/
theorem not_isDateUnder_alone :
    let seconds : LetterPattern := {
      marks := [.bare 's' (by decide)]
      translates := by decide
      carries := by decide
      plain := by decide
      starts := by decide
      ends := by decide }
    let noon : LetterPattern := {
      marks := [.bare 'A' (by decide)]
      translates := by decide
      carries := by decide
      plain := by decide
      starts := by decide
      ends := by decide }
    (seconds.text = "s" ∧ seconds.letters.Nodup ∧ ¬∃ value, isDateUnder value "s" = true) ∧
      noon.text = "A" ∧ noon.letters.Nodup ∧ ¬∃ value, isDateUnder value "A" = true := by
  intro seconds noon
  have hseconds : ∀ value, isDateUnder value "s" = false :=
    seconds.isDateUnder_of_second (by decide) (by decide) (by decide)
  have hnoon : ∀ value, isDateUnder value "A" = false :=
    noon.isDateUnder_of_noon (by decide) (by decide)
  refine ⟨⟨rfl, by decide, fun ⟨value, hvalue⟩ => ?_⟩, rfl, by decide, fun ⟨value, hvalue⟩ => ?_⟩
  · exact nomatch (hseconds value).symm.trans hvalue
  · exact nomatch (hnoon value).symm.trans hvalue

end LetterPattern

end Date

end FormRules
