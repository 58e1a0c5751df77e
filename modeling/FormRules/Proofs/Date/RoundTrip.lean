import FormRules.Date.Check
import FormRules.Proofs.Date.Layout

/-!
# Dates under patterns of padded numbers

What a date and a time look like under a pattern is read back part by part, into fields that are
those of the date and the time.  With the standard parts for what the pattern lacks they make up the
date and the time again, so that the same text is written.
-/

namespace FormRules.Date

open FormRules.Text

def Part.enter (part : Part) (fields : Fields) (n : Int) : Except FieldError Fields :=
  match part with
  | .year => fields.setYear n
  | .month => fields.setMonth n
  | .day => fields.setDay n
  | .hour => fields.setHour n
  | .minute => fields.setMinute n
  | .second => fields.setSecond n

theorem Fields.agree_ite {α : Type} [DecidableEq α] {known : Prop} [Decidable known] (value : α) :
    agree (if known then some value else none) value = .ok (some value) := by
  split
  · rw [agree, if_pos rfl]
  · rfl

namespace Moment

variable (m : Moment)

theorem date_isValid : m.date.isValid = true := by
  have hyear := m.year_range
  have hrange : firstYear ≤ m.date.year ∧ m.date.year ≤ lastYear := by
    rw [firstYear, lastYear]
    omega
  exact CalendarDate.isValid_iff.2 ⟨hrange, m.isGregorian⟩

theorem time_isValid : m.time.isValid = true := TimeOfDay.isValid_iff.2 m.clock

theorem natCast_value_year : (m.value .year : Int) = m.date.year :=
  Int.toNat_of_nonneg m.year_range.1

theorem value_lt (part : Part) : m.value part < 10 ^ part.width := by
  have hyear := m.year_range
  have hmonth := m.isGregorian.month_range
  have hday := m.isGregorian.day_range
  have hclock := m.clock
  cases part <;> simp only [value, Part.width] <;> omega

def digits (part : Part) : Digits part.width :=
  .ofNat part.width (m.value part) (by cases part <;> decide) (m.value_lt part)

theorem value_digits (part : Part) : (m.digits part).value = m.value part :=
  ofDigitChars_padded part.width (m.value part)

/-! ### Fields -/

/-- The fields where some parts are known. -/
def fields (parts : List Part) : Fields where
  year := if .year ∈ parts then some m.date.year else none
  month := if .month ∈ parts then some m.date.month else none
  day := if .day ∈ parts then some m.date.day else none
  afternoon := if .hour ∈ parts then some (decide (12 ≤ m.time.hour)) else none
  halfDayHour := if .hour ∈ parts then some (m.time.hour % 12) else none
  minute := if .minute ∈ parts then some m.time.minute else none
  second := if .second ∈ parts then some m.time.second else none

theorem fields_congr {parts others : List Part} (h : ∀ part, part ∈ parts ↔ part ∈ others) :
    m.fields parts = m.fields others := by
  simp only [fields, h]

theorem enter_fields (part : Part) (parts : List Part) :
    part.enter (m.fields parts) (m.value part) = .ok (m.fields (parts ++ [part])) := by
  have hyear := m.year_range
  have hmonth := m.isGregorian.month_range
  have hday := m.isGregorian.day_range
  have hclock := m.clock
  cases part with
  | year =>
    rw [Part.enter, natCast_value_year, Fields.setYear, if_pos (by omega), fields, Fields.agree_ite]
    simp [fields, Except.map]
  | month =>
    rw [Part.enter, value, Fields.setMonth, if_pos (by omega), Int.toNat_natCast, fields,
      Fields.agree_ite]
    simp [fields, Except.map]
  | day =>
    rw [Part.enter, value, Fields.setDay, if_pos (by omega), Int.toNat_natCast, fields,
      Fields.agree_ite]
    simp [fields, Except.map]
  | hour =>
    have hnoon : decide ((12 : Int) ≤ m.time.hour) = decide (12 ≤ m.time.hour) := by
      rw [decide_eq_decide]
      omega
    rw [Part.enter, value, Fields.setHour, if_pos (by omega), Int.toNat_natCast, hnoon,
      Fields.setAfternoon, fields, Fields.agree_ite]
    simp [fields, Except.map, Fields.agree_ite]
  | minute =>
    rw [Part.enter, value, Fields.setMinute, if_pos (by omega), Int.toNat_natCast, fields,
      Fields.agree_ite]
    simp [fields, Except.map]
  | second =>
    rw [Part.enter, value, Fields.setSecond, if_pos (by omega), Int.toNat_natCast, fields,
      Fields.agree_ite]
    simp [fields, Except.map]

/-! ### Reading -/

theorem component?_of_enter {part : Part} {fields after : Fields}
    (henter : part.enter fields (m.value part) = .ok after) (rest : List Char) :
    Reading.component? part.component fields (m.text part ++ rest) = some (after, rest) := by
  have hwidth : 0 < part.width := by cases part <;> decide
  have hvalue : m.value part < 0x8000000000000000 := by
    have hlt := m.value_lt part
    cases part <;> simp only [Part.width] at hlt <;> omega
  have htrim : trimStart (m.text part ++ rest) = m.text part ++ rest :=
    (m.digits part).trimStart_append hwidth rest
  have hread : Reading.number? (some part.width) (m.text part ++ rest) =
      some ((m.value part : Int), rest) := by
    have h := (m.digits part).number?_append hwidth (by rwa [m.value_digits]) rest
    rwa [m.value_digits] at h
  have hsigned : Reading.signedNumber? part.width (m.text part ++ rest) =
      some ((m.value part : Int), rest) :=
    ((m.digits part).signedNumber?_append hwidth rest).trans hread
  cases part <;>
    simp only [Part.enter] at henter <;>
    simp only [Part.width] at hread hsigned <;>
    simp only [Part.component, Reading.component?, htrim, hread, hsigned, henter]

theorem component?_text (part : Part) (parts : List Part) (rest : List Char) :
    Reading.component? part.component (m.fields parts) (m.text part ++ rest) =
      some (m.fields (parts ++ [part]), rest) :=
  m.component?_of_enter (m.enter_fields part parts) rest

end Moment

/-! ### Literal characters -/

theorem Item.consChar_of_solid {c : Char} (hc : isBlank c = false) (items : List Item) :
    (∃ text rest, items = .literal text :: rest ∧ consChar c items = .literal (c :: text) :: rest) ∨
      consChar c items = .literal [c] :: items := by
  unfold consChar
  rw [if_neg (by rw [hc]; exact Bool.false_ne_true)]
  split
  · rename_i text rest
    exact Or.inl ⟨text, rest, rfl, rfl⟩
  · exact Or.inr rfl

theorem Item.consChar_of_blank {c : Char} (hc : isBlank c = true) (items : List Item) :
    (∃ text rest, items = .blank text :: rest ∧ consChar c items = .blank (c :: text) :: rest) ∨
      consChar c items = .blank [c] :: items := by
  unfold consChar
  rw [if_pos hc]
  split
  · rename_i text rest
    exact Or.inl ⟨text, rest, rfl, rfl⟩
  · exact Or.inr rfl

theorem Reading.fields?_literal_cons (c : Char) (text : List Char) (items : List Item)
    (fields : Fields) (s : List Char) :
    fields? (.literal (c :: text) :: items) fields (c :: s) =
      fields? (.literal text :: items) fields s := by
  simp only [fields?, List.isPrefixOf_cons_cons_self, List.length_cons, List.drop_succ_cons]

theorem Reading.fields?_literal_nil (items : List Item) (fields : Fields) (s : List Char) :
    fields? (.literal [] :: items) fields s = fields? items fields s := by
  simp only [fields?, List.isPrefixOf_nil_left, if_true, List.length_nil, List.drop_zero]

theorem Reading.fields?_blank_trimStart (text : List Char) (items : List Item) (fields : Fields)
    (s : List Char) :
    fields? (.blank text :: items) fields (trimStart s) =
      fields? (.blank text :: items) fields s := by
  simp only [fields?, trimStart_idem]

theorem Piece.put_of_blank {c : Char} (hc : Text.isBlank c = true) (escaped : Bool)
    (items : List Item) : put (.literal c escaped) items = Item.consChar c items := by
  rw [put, if_neg]
  intro heq
  rw [heq] at hc
  exact nomatch hc

/-- A blank item in front takes nothing that the items need. -/
def Reading.KeepsBlanks (items : List Item) (s : List Char) : Prop :=
  (∃ text rest, items = .blank text :: rest) ∨ StartsSolid s

theorem Reading.fields?_put_literal {c : Char} {escaped : Bool} {items : List Item}
    {fields : Fields} {s : List Char}
    (h : KeepsBlanks items s) :
    fields? (Piece.put (.literal c escaped) items) fields (c :: s) = fields? items fields s := by
  cases hc : isBlank c with
  | false =>
    have hsingle : fields? (.literal [c] :: items) fields (c :: s) = fields? items fields s := by
      rw [fields?_literal_cons, fields?_literal_nil]
    rw [Piece.put]
    split
    · exact hsingle
    · rcases Item.consChar_of_solid hc items with ⟨text, rest, hitems, hcons⟩ | hcons
      · rw [hcons, hitems, fields?_literal_cons]
      · rw [hcons, hsingle]
  | true =>
    have htrim : fields? items fields (trimStart s) = fields? items fields s := by
      rcases h with ⟨text, rest, hitems⟩ | hsolid
      · rw [hitems, fields?_blank_trimStart]
      · rw [trimStart_of_solid hsolid]
    have hskip : trimStart (c :: s) = trimStart s := by
      rw [trimStart_cons, if_pos hc]
    rw [Piece.put_of_blank hc]
    rcases Item.consChar_of_blank hc items with ⟨text, rest, hitems, hcons⟩ | hcons
    · rw [hcons, hitems, fields?, fields?, hskip]
    · rw [hcons, fields?, hskip, htrim]

theorem Piece.keepsBlanks_put (c : Char) (escaped : Bool) (items : List Item) (s : List Char) :
    Reading.KeepsBlanks (put (.literal c escaped) items) (c :: s) := by
  cases hc : Text.isBlank c with
  | false =>
    refine Or.inr fun d hd => ?_
    rw [← Option.some.inj hd]
    exact hc
  | true =>
    refine Or.inl ?_
    rw [put_of_blank hc]
    rcases Item.consChar_of_blank hc items with ⟨text, rest, -, hcons⟩ | hcons
    · exact ⟨_, _, hcons⟩
    · exact ⟨_, _, hcons⟩

/-- Reading goes through a row of pieces if it goes through each of them, whatever stands behind. -/
theorem Reading.fields?_foldr {α : Type} {put : α → List Item → List Item}
    {text : α → List Char} {known : List α → Fields}
    (hstep : ∀ a before items s, KeepsBlanks items s →
      fields? (put a items) (known before) (text a ++ s) = fields? items (known (before ++ [a])) s)
    (hkeeps : ∀ a items s, KeepsBlanks (put a items) (text a ++ s)) (row before : List α) :
    fields? (row.foldr put []) (known before) (row.flatMap text) = some (known (before ++ row)) := by
  have hbehind : ∀ row : List α, KeepsBlanks (row.foldr put []) (row.flatMap text) := by
    intro row
    cases row with
    | nil => exact Or.inr fun c hc => nomatch hc
    | cons a row => exact hkeeps a _ _
  induction row generalizing before with
  | nil =>
    rw [List.append_nil]
    rfl
  | cons a row ih =>
    rw [List.foldr_cons, List.flatMap_cons, hstep a before _ _ (hbehind row), ih,
      List.append_assoc, List.singleton_append]

namespace Moment

variable (m : Moment)

theorem solid_text (part : Part) :
    m.text part ≠ [] ∧ StartsSolid (m.text part) ∧ EndsSolid (m.text part) :=
  ⟨(m.digits part).ne_nil (by cases part <;> decide), (m.digits part).startsSolid,
    (m.digits part).endsSolid⟩

theorem solid_piece {piece : Piece} (h : piece.isBlank = false) :
    piece.text m ≠ [] ∧ StartsSolid (piece.text m) ∧ EndsSolid (piece.text m) := by
  cases piece with
  | part p => exact m.solid_text p
  | literal c escaped =>
    exact ⟨List.cons_ne_nil c [], fun d hd => Option.some.inj hd ▸ h,
      fun d hd => Option.some.inj hd ▸ h⟩

theorem fields?_text (pieces : List Piece) (before : List Part) :
    Reading.fields? (pieces.foldr Piece.put []) (m.fields before)
        (pieces.flatMap (Piece.text m)) =
      some (m.fields (before ++ pieces.filterMap Piece.part?)) := by
  let known (read : List Piece) : Fields := m.fields (before ++ read.filterMap Piece.part?)
  have hstart : m.fields before = known [] := by
    simp only [known, List.filterMap_nil, List.append_nil]
  rw [hstart]
  refine Reading.fields?_foldr (fun piece read items s hs => ?_) (fun piece items s => ?_) pieces []
  · simp only [known, List.filterMap_append, ← List.append_assoc]
    cases piece with
    | part p =>
      -- a part that is known already is read again with the same value
      rw [Piece.put, Piece.text, Reading.fields?, m.component?_text]
      rfl
    | literal c escaped =>
      rw [Piece.text, List.singleton_append, Reading.fields?_put_literal hs]
      simp only [List.filterMap_cons, Piece.part?, List.filterMap_nil, List.append_nil]
  · cases piece with
    | part p => exact Or.inr ((m.solid_text p).2.1.append (m.solid_text p).1 s)
    | literal c escaped => exact Piece.keepsBlanks_put c escaped items s

end Moment

/-! ### Writing -/

theorem Writing.text?_put_literal (date : Option CalendarDate) (time : Option TimeOfDay) (c : Char)
    (escaped : Bool) (items : List Item) :
    text? date time (Piece.put (.literal c escaped) items) =
      (text? date time items).map (c :: ·) := by
  have hsingle : text? date time (.literal [c] :: items) = (text? date time items).map (c :: ·) := rfl
  have hjoined : ∀ text rest, (text? date time rest).map (fun s => c :: text ++ s) =
      ((text? date time rest).map (text ++ ·)).map (c :: ·) := by
    intro text rest
    rw [Option.map_map]
    rfl
  rw [Piece.put]
  split
  · exact hsingle
  · cases hc : isBlank c with
    | false =>
      rcases Item.consChar_of_solid hc items with ⟨text, rest, hitems, hcons⟩ | hcons
      · rw [hcons, hitems, text?, text?, hjoined]
      · rw [hcons, hsingle]
    | true =>
      rcases Item.consChar_of_blank hc items with ⟨text, rest, hitems, hcons⟩ | hcons
      · rw [hcons, hitems, text?, text?, hjoined]
      · rw [hcons]
        rfl

theorem Writing.text?_field {date : Option CalendarDate} {time : Option TimeOfDay}
    {component : Component} {padded : Bool} {text : List Char}
    (h : component? date time padded component = some text) (items : List Item) :
    text? date time (.field component padded :: items) =
      (text? date time items).map (text ++ ·) := by
  rw [text?, h]
  cases text? date time items <;> rfl

theorem Writing.text?_foldr {α : Type} {put : α → List Item → List Item} {text : α → List Char}
    {date : Option CalendarDate} {time : Option TimeOfDay} {row : List α}
    (hstep : ∀ a ∈ row, ∀ items,
      text? date time (put a items) = (text? date time items).map (text a ++ ·)) :
    text? date time (row.foldr put []) = some (row.flatMap text) := by
  induction row with
  | nil => rfl
  | cons a row ih =>
    obtain ⟨ha, hrow⟩ := List.forall_mem_cons.1 hstep
    rw [List.foldr_cons, List.flatMap_cons, ha, ih hrow, Option.map_some]

def Part.isOfDate : Part → Bool
  | year => true
  | month => true
  | day => true
  | _ => false

namespace Moment

variable (m : Moment)

theorem year_text : Writing.year true m.date.year = m.text .year := by
  have hyear := m.year_range
  have habs : m.date.year.natAbs = m.date.year.toNat := by omega
  rw [Writing.year, if_neg (by omega), if_pos (by omega), habs]
  rfl

theorem component?_write {part : Part} {date : Option CalendarDate} {time : Option TimeOfDay}
    (hdate : part.isOfDate = true → date = some m.date)
    (htime : part.isOfDate = false → time = some m.time) :
    Writing.component? date time true part.component = some (m.text part) := by
  cases part with
  | year => rw [hdate rfl, Part.component, Writing.component?, Option.map_some, m.year_text]
  | month => rw [hdate rfl]; rfl
  | day => rw [hdate rfl]; rfl
  | hour => rw [htime rfl]; rfl
  | minute => rw [htime rfl]; rfl
  | second => rw [htime rfl]; rfl

theorem text?_text (pieces : List Piece) {date : Option CalendarDate} {time : Option TimeOfDay}
    (hdate : ∀ part ∈ pieces.filterMap Piece.part?, part.isOfDate = true → date = some m.date)
    (htime : ∀ part ∈ pieces.filterMap Piece.part?, part.isOfDate = false → time = some m.time) :
    Writing.text? date time (pieces.foldr Piece.put []) =
      some (pieces.flatMap (Piece.text m)) := by
  refine Writing.text?_foldr fun piece hpiece items => ?_
  cases piece with
  | part p =>
    have hpart : p ∈ pieces.filterMap Piece.part? := List.mem_filterMap.2 ⟨.part p, hpiece, rfl⟩
    exact Writing.text?_field (m.component?_write (hdate p hpart) (htime p hpart)) items
  | literal c escaped => exact Writing.text?_put_literal date time c escaped items

/-! ### Completion -/

theorem setWhen_part {part : Part} {parts known : List Part} (hknown : parts ⊆ known)
    (hstandard : part ∉ parts → m.value part = part.standard) (asked : Bool) :
    setWhen (asked && !decide (part ∈ parts)) (part.enter · part.standard) (m.fields known) =
      .ok (m.fields (known ++ if asked then [part] else [])) := by
  cases asked with
  | false => rw [Bool.false_and, setWhen, if_neg Bool.false_ne_true, if_neg Bool.false_ne_true,
      List.append_nil]
  | true =>
    by_cases hpart : part ∈ parts
    · have hsame : m.fields (known ++ [part]) = m.fields known := by
        apply m.fields_congr
        intro other
        rw [List.mem_append, List.mem_singleton, or_iff_left_of_imp]
        intro heq
        rw [heq]
        exact hknown hpart
      rw [decide_eq_true hpart, Bool.not_true, Bool.and_false, setWhen,
        if_neg Bool.false_ne_true, if_pos rfl, hsame]
    · rw [decide_eq_false hpart, Bool.not_false, Bool.and_true, setWhen, if_pos rfl, if_pos rfl,
        ← m.enter_fields part known, hstandard hpart]

/-- What the pattern lacks is set to the standard parts, and nothing else changes. -/
theorem completed_fields {parts : List Part}
    (hstandard : ∀ part, part ∉ parts → m.value part = part.standard) :
    completed (carried parts) (m.fields parts) =
      .ok (m.fields (parts ++ completion (carried parts))) := by
  have hstep : ∀ (part : Part) (asked : Bool) (more : List Part),
      setWhen (asked && !decide (part ∈ parts)) (part.enter · part.standard)
          (m.fields (parts ++ more)) =
        .ok (m.fields (parts ++ (more ++ if asked then [part] else []))) := by
    intro part asked more
    rw [← List.append_assoc]
    exact m.setWhen_part (List.subset_append_left parts more) (hstandard part) asked
  have hbind : ∀ {fields : Fields} {step : Except FieldError Fields}
      (rest : Fields → Except FieldError Fields), step = .ok fields → step >>= rest = rest fields := by
    intro fields step rest h
    rw [h]
    rfl
  have htimestamp : ¬(carried parts).timestamp = true := Bool.false_ne_true
  have hmeridiem : (carried parts).meridiem = false := rfl
  have htwelve : (carried parts).twelveHour = false := rfl
  have hparts : m.fields parts = m.fields (parts ++ []) := by rw [List.append_nil]
  -- every step meets the fields of the parts and of what the steps before it added
  rw [completed, if_neg htimestamp, hmeridiem, htwelve, hparts, completion, Bool.not_false,
    Bool.and_false, Bool.and_true, Bool.and_true]
  generalize (carried parts).concernsDate = date
  generalize (carried parts).concernsTime = time
  refine (hbind _ (hstep .year date [])).trans ?_
  refine (hbind _ (hstep .month date _)).trans ?_
  refine (hbind _ (hstep .day date _)).trans ?_
  refine (hbind _ (hstep .hour time _)).trans ?_
  refine (hstep .minute time _).trans ?_
  cases date <;> cases time <;> rfl

/-! ### Putting the fields together -/

theorem second_fields (parts : List Part) :
    (m.fields parts).second = if .second ∈ parts then some m.time.second else none := rfl

theorem second_fields_ne (parts : List Part) : (m.fields parts).second ≠ some 60 := by
  have hclock := m.clock
  rw [second_fields]
  split
  · rw [Ne, Option.some.injEq]
    omega
  · exact fun h => nomatch h

theorem date?_fields {known : List Part} (hknown : [.year, .month, .day] ⊆ known) :
    (m.fields known).date? = .ok m.date := by
  have hyear : .year ∈ known := hknown (by decide)
  have hmonth : .month ∈ known := hknown (by decide)
  have hday : .day ∈ known := hknown (by decide)
  simp only [Fields.date?, Fields.resolvedYear, fields, if_pos hyear, if_pos hmonth, if_pos hday,
    if_pos m.date_isValid]

theorem time?_fields {known : List Part} (hknown : [.hour, .minute] ⊆ known)
    (hsecond : .second ∉ known → m.time.second = 0) : (m.fields known).time? = .ok m.time := by
  have hclock := m.clock
  have hhour : .hour ∈ known := hknown (by decide)
  have hminute : .minute ∈ known := hknown (by decide)
  have hhours : m.time.hour % 12 + (if decide (12 ≤ m.time.hour) = true then 12 else 0) =
      m.time.hour := by
    simp only [decide_eq_true_eq]
    split <;> omega
  have hseconds : (m.fields known).second.getD 0 = m.time.second := by
    rw [second_fields]
    split
    · rfl
    · rename_i hlacks
      exact (hsecond hlacks).symm
  have hvalid := m.time_isValid
  simp only [Fields.time?, hseconds]
  simp only [fields, if_pos hhour, if_pos hminute, hhours, if_pos hvalid]

theorem dateTime?_fields {known : List Part} (hdate : [.year, .month, .day] ⊆ known)
    (htime : [.hour, .minute] ⊆ known) (hsecond : .second ∉ known → m.time.second = 0) :
    (m.fields known).dateTime? = .ok (m.date, m.time) := by
  have htimestamp : (m.fields known).timestamp = none := rfl
  rw [Fields.dateTime?, m.date?_fields hdate, m.time?_fields htime hsecond, htimestamp]

end Moment

/-! ### The round trip -/

section Carried

variable {parts : List Part} {part : Part}

theorem concernsDate_carried (hpart : part ∈ parts) (hdate : part.isOfDate = true) :
    (carried parts).concernsDate = true := by
  cases part <;> simp_all [Part.isOfDate, Components.concernsDate, carried]

theorem concernsTime_carried (hseconds : .second ∈ parts → .hour ∈ parts ∨ .minute ∈ parts)
    (hpart : part ∈ parts) (htime : part.isOfDate = false) :
    (carried parts).concernsTime = true := by
  have hboth : .hour ∈ parts ∨ .minute ∈ parts := by
    cases part with
    | hour => exact Or.inl hpart
    | minute => exact Or.inr hpart
    | second => exact hseconds hpart
    | _ => exact nomatch htime
  simp only [Components.concernsTime, carried, Bool.or_eq_true, decide_eq_true_eq]
  exact Or.inl (Or.inl hboth)

end Carried

/-- Fields with what the pattern lacks are written as the text that the pattern's parts call for. -/
theorem Moment.render_carried (m : Moment) {parts : List Part} {items : List Item}
    {text : List Char} (hcarries : ∃ part ∈ parts, part ≠ .second)
    (hseconds : .second ∈ parts → .hour ∈ parts ∨ .minute ∈ parts)
    (hstandard : ∀ part, part ∉ parts → m.value part = part.standard)
    (hwritten : ∀ date time, (∀ part ∈ parts, part.isOfDate = true → date = some m.date) →
      (∀ part ∈ parts, part.isOfDate = false → time = some m.time) →
        Writing.text? date time items = some text) :
    render (carried parts) items (m.fields (parts ++ completion (carried parts))) =
      some text := by
  have hdate : ∀ part ∈ parts, part.isOfDate = true → (carried parts).concernsDate = true :=
    fun _ => concernsDate_carried
  have htime : ∀ part ∈ parts, part.isOfDate = false → (carried parts).concernsTime = true :=
    fun _ => concernsTime_carried hseconds
  have hsecond : .second ∉ parts ++ completion (carried parts) → m.time.second = 0 :=
    fun hlacks => hstandard .second fun hmem => hlacks (List.mem_append_left _ hmem)
  have hdates : (carried parts).concernsDate = true →
      [.year, .month, .day] ⊆ parts ++ completion (carried parts) := by
    intro h
    rw [completion, if_pos h, ← List.append_assoc]
    exact List.subset_append_of_subset_left _ (List.subset_append_right _ _)
  have htimes : (carried parts).concernsTime = true →
      [.hour, .minute] ⊆ parts ++ completion (carried parts) := by
    intro h
    rw [completion, if_pos h, ← List.append_assoc]
    exact List.subset_append_right _ _
  generalize parts ++ completion (carried parts) = known at *
  unfold render
  cases hd : (carried parts).concernsDate with
  | true =>
    cases ht : (carried parts).concernsTime with
    | true =>
      simp only [m.dateTime?_fields (hdates hd) (htimes ht) hsecond]
      exact hwritten _ _ (fun _ _ _ => rfl) fun _ _ _ => rfl
    | false =>
      have hnoTime : ∀ part ∈ parts, part.isOfDate = false → none = some m.time :=
        fun part hpart hnot => nomatch ht.symm.trans (htime part hpart hnot)
      simp only [m.date?_fields (hdates hd)]
      exact hwritten _ _ (fun _ _ _ => rfl) hnoTime
  | false =>
    have hnoDate : ∀ part ∈ parts, part.isOfDate = true → none = some m.date :=
      fun part hpart hof => nomatch hd.symm.trans (hdate part hpart hof)
    cases ht : (carried parts).concernsTime with
    | true =>
      simp only [m.time?_fields (htimes ht) hsecond]
      exact hwritten _ _ hnoDate fun _ _ _ => rfl
    | false =>
      obtain ⟨part, hpart, -⟩ := hcarries
      cases hof : part.isOfDate with
      | true => exact nomatch hd.symm.trans (hdate part hpart hof)
      | false => exact nomatch ht.symm.trans (htime part hpart hof)

namespace Layout

variable (layout : Layout)

theorem render_fields (m : Moment)
    (hstandard : ∀ part, part ∉ layout.parts → m.value part = part.standard) :
    render (carried layout.parts) (layout.pieces.foldr Piece.put [])
        (m.fields (layout.parts ++ completion (carried layout.parts))) =
      some (layout.text m) :=
  m.render_carried layout.carries layout.seconds hstandard
    fun _ _ hdate htime => m.text?_text layout.pieces hdate htime

/-! ### Values under the pattern -/

theorem trim_text (m : Moment) : trim (layout.text m) = layout.text m :=
  trim_flatMap (fun piece h => (m.solid_piece (layout.starts piece h)).imp_right And.left)
    fun piece h => (m.solid_piece (layout.ends piece h)).imp_right And.right

theorem format?_spelling : ∃ format,
    DatePattern.format? layout.spelling = some (format, carried layout.parts) ∧
      Item.ofFormat format = layout.pieces.foldr Piece.put [] :=
  formatFrom?_spelling layout.plain []

/-- A value that, trimmed, is what a date and a time look like under the pattern. -/
theorem isDateUnder_of_trim {m : Moment}
    (hstandard : ∀ part, part ∉ layout.parts → m.value part = part.standard) {value : String}
    (hvalue : trim value.toList = layout.text m) :
    isDateUnder value (String.ofList layout.spelling) = true := by
  obtain ⟨format, hformat, hitems⟩ := layout.format?_spelling
  have hread : Reading.fields? (layout.pieces.foldr Piece.put []) {} (layout.text m) =
      some (m.fields layout.parts) := m.fields?_text layout.pieces []
  have hround : readAndWrite (carried layout.parts) (layout.pieces.foldr Piece.put [])
      (layout.text m) = some (layout.text m) := by
    rw [readAndWrite, hread]
    simp only [if_neg (m.second_fields_ne layout.parts), m.completed_fields hstandard,
      layout.render_fields m hstandard]
  unfold isDateUnder
  rw [String.toList_ofList, hformat]
  simp only [hitems, hvalue, hround, beq_self_eq_true]

/-- A date and a time are accepted as they look under a pattern of padded numbers, if the parts that
the pattern lacks are those of midnight on the first of January 2000. -/
theorem isDateUnder_text (m : Moment)
    (hstandard : ∀ part, part ∉ layout.parts → m.value part = part.standard) :
    isDateUnder (String.ofList (layout.text m)) (String.ofList layout.spelling) = true := by
  have hvalue : trim (String.ofList (layout.text m)).toList = layout.text m := by
    rw [String.toList_ofList, layout.trim_text m]
  exact layout.isDateUnder_of_trim hstandard hvalue

/-- Digits that stand for themselves beside a day that is asked for twice. -/
theorem isDateUnder_text_literals :
    let layout : Layout := {
      pieces := [.literal '%' false, .part .day, .literal 'h' true, .literal ' ' false,
        .literal ' ' false, .literal '7' false, .part .day, .part .hour, .part .second]
      plain := by decide
      carries := ⟨.day, by decide⟩
      seconds := by decide
      starts := by decide
      ends := by decide }
    let m : Moment := {
      date := ⟨2000, 1, 31⟩
      time := ⟨5, 0, 9⟩
      year_range := by decide
      isGregorian := isGregorian_iff.2 (by decide)
      clock := by decide }
    (∀ part, part ∉ layout.parts → m.value part = part.standard) ∧
      isDateUnder "%31h  7310509" "%d\\h  7dHs" = true := by
  intro layout m
  have hstandard : ∀ part, part ∉ layout.parts → m.value part = part.standard := by
    intro part hlacks
    cases part <;> first | rfl | exact absurd (by decide) hlacks
  have htext : String.ofList (layout.text m) = "%31h  7310509" := by decide
  have hspelling : String.ofList layout.spelling = "%d\\h  7dHs" := rfl
  have haccepted := layout.isDateUnder_text m hstandard
  rw [htext, hspelling] at haccepted
  exact ⟨hstandard, haccepted⟩

end Layout

end FormRules.Date
