import FormRules.Proofs.Date.RoundTrip
import FormRules.Proofs.Date.Writing

/-!
# Dates under the standard patterns

Under the standard patterns the leniency of reading never shows: of all texts of digits in the form
of a date or a time exactly those are accepted that stand for a day of the calendar and a time of
the clock.
-/

namespace FormRules

open FormRules.Text FormRules.Date

namespace Date

/-! ### Digits in the form of a date and of a time -/

/-- Three texts with a mark between them. -/
def joined (mark : Char) (first second third : List Char) : List Char :=
  first ++ mark :: (second ++ mark :: third)

theorem joined_inj {mark : Char} {a b c a' b' c' : List Char}
    (hb : b.length = b'.length) (hc : c.length = c'.length)
    (h : joined mark a b c = joined mark a' b' c') : a = a' ∧ b = b' ∧ c = c' := by
  have htail : (mark :: (b ++ mark :: c)).length = (mark :: (b' ++ mark :: c')).length := by
    simp only [List.length_cons, List.length_append, hb, hc]
  obtain ⟨hfirst, htail⟩ := List.append_inj' h htail
  obtain ⟨hsecond, hthird⟩ := List.append_inj (List.cons.inj htail).2 hb
  exact ⟨hfirst, hsecond, (List.cons.inj hthird).2⟩

theorem length_joined (mark : Char) (a b c : List Char) :
    (joined mark a b c).length = a.length + b.length + c.length + 2 := by
  simp only [joined, List.length_append, List.length_cons]
  omega

/-- Digits in the form of a date, such as `2000-01-31`. -/
structure DateDigits where
  year : Digits 4
  month : Digits 2
  day : Digits 2

/-- Digits in the form of a time, such as `17:30:00`. -/
structure TimeDigits where
  hour : Digits 2
  minute : Digits 2
  second : Digits 2

namespace DateDigits

variable (digits : DateDigits)

def chars : List Char := joined '-' digits.year.chars digits.month.chars digits.day.chars

/-- The date that the digits denote, whether there is such a day or not. -/
def date : CalendarDate := ⟨digits.year.value, digits.month.value, digits.day.value⟩

end DateDigits

namespace TimeDigits

variable (digits : TimeDigits)

def chars : List Char := joined ':' digits.hour.chars digits.minute.chars digits.second.chars

/-- The time that the digits denote, whether there is such a time or not. -/
def time : TimeOfDay := ⟨digits.hour.value, digits.minute.value, digits.second.value⟩

end TimeDigits

/-! ### Dates and times as they are written -/

theorem Digits.eq_value_of_padded {width n : Nat} {digits : Digits width}
    (h : Writing.padded width n = digits.chars) : n = digits.value := by
  rw [Digits.value, ← h, ofDigitChars_padded]

/-- A year that is written in four digits has no sign. -/
theorem Digits.eq_value_of_year {n : Int} {digits : Digits 4}
    (h : Writing.year true n = digits.chars) : n = digits.value := by
  have hsign : ∀ mark rest, mark :: rest = digits.chars → mark.isDigit = true := by
    intro mark rest heq
    exact digits.allDigits mark (by rw [← heq]; exact List.mem_cons_self)
  rw [Writing.year] at h
  split at h
  · exact absurd (hsign '-' _ h) (by decide)
  · split at h
    · have hvalue : n.natAbs = digits.value := eq_value_of_padded h
      omega
    · exact absurd (hsign '+' _ h) (by decide)

theorem Digits.year_value (digits : Digits 4) : Writing.year true digits.value = digits.chars := by
  have hvalue : digits.value < 10000 := digits.value_lt
  rw [digits.eq_padded (by decide), Writing.year, if_neg (by omega), if_pos (by omega),
    Int.natAbs_natCast]
  rfl

def CalendarDate.text (date : CalendarDate) : List Char :=
  joined '-' (Writing.year true date.year) (Writing.padded 2 date.month)
    (Writing.padded 2 date.day)

def TimeOfDay.text (time : TimeOfDay) : List Char :=
  joined ':' (Writing.padded 2 time.hour) (Writing.padded 2 time.minute)
    (Writing.padded 2 time.second)

theorem DateDigits.text_date (digits : DateDigits) : digits.date.text = digits.chars := by
  rw [CalendarDate.text, date, digits.year.year_value, ← digits.month.eq_padded (by decide),
    ← digits.day.eq_padded (by decide), chars]

theorem TimeDigits.text_time (digits : TimeDigits) : digits.time.text = digits.chars := by
  rw [TimeOfDay.text, time, ← digits.hour.eq_padded (by decide),
    ← digits.minute.eq_padded (by decide), ← digits.second.eq_padded (by decide), chars]

theorem TimeDigits.length_chars (digits : TimeDigits) : digits.chars.length = 8 := by
  rw [chars, length_joined, digits.hour.length_eq, digits.minute.length_eq,
    digits.second.length_eq]

theorem TimeOfDay.exists_digits {time : TimeOfDay} (h : time.isValid = true) :
    ∃ digits : TimeDigits, digits.time = time := by
  obtain ⟨hhour, hminute, hsecond⟩ := isValid_iff.1 h
  refine ⟨⟨.ofNat 2 time.hour (by decide) (by omega), .ofNat 2 time.minute (by decide) (by omega),
    .ofNat 2 time.second (by decide) (by omega)⟩, ?_⟩
  rw [TimeDigits.time]
  simp only [Digits.value, Digits.ofNat, ofDigitChars_padded]

theorem TimeDigits.time_of_text {time : TimeOfDay} {digits : TimeDigits}
    (hvalid : time.isValid = true) (h : time.text = digits.chars) : digits.time = time := by
  obtain ⟨own, rfl⟩ := TimeOfDay.exists_digits hvalid
  rw [own.text_time] at h
  obtain ⟨hhour, hminute, hsecond⟩ := joined_inj
    (own.minute.length_eq.trans digits.minute.length_eq.symm)
    (own.second.length_eq.trans digits.second.length_eq.symm) h
  simp only [time, Digits.value, hhour, hminute, hsecond]

theorem DateDigits.date_of_text {date : CalendarDate} {digits : DateDigits}
    (hvalid : date.isValid = true) (h : date.text = digits.chars) : digits.date = date := by
  obtain ⟨-, hgregorian⟩ := CalendarDate.isValid_iff.1 hvalid
  have hmonth : date.month < 10 ^ 2 := by
    have hrange := hgregorian.month_range
    omega
  have hday : date.day < 10 ^ 2 := by
    have hrange := hgregorian.day_range
    omega
  -- taken apart from the right, where the widths are fixed: a year may have a sign and more digits
  obtain ⟨hyear, hmonth, hday⟩ := joined_inj
    ((length_padded (by decide) hmonth).trans digits.month.length_eq.symm)
    ((length_padded (by decide) hday).trans digits.day.length_eq.symm) h
  rw [DateDigits.date, ← Digits.eq_value_of_year hyear, ← Digits.eq_value_of_padded hmonth,
    ← Digits.eq_value_of_padded hday]

theorem text_of_written {date : CalendarDate} {time : TimeOfDay} {day : DateDigits}
    {clock : TimeDigits} (hdate : date.isValid = true) (htime : time.isValid = true)
    (h : date.text ++ ' ' :: time.text = day.chars ++ ' ' :: clock.chars) :
    day.date = date ∧ clock.time = time := by
  obtain ⟨own, rfl⟩ := TimeOfDay.exists_digits htime
  rw [own.text_time] at h
  have hlength : own.chars.length = clock.chars.length :=
    own.length_chars.trans clock.length_chars.symm
  obtain ⟨hday, hclock⟩ := List.append_inj' h (by rw [List.length_cons, List.length_cons, hlength])
  have htext : own.time.text = clock.chars := own.text_time.trans (List.cons.inj hclock).2
  exact ⟨DateDigits.date_of_text hdate hday, TimeDigits.time_of_text htime htext⟩

/-! ### The standard patterns -/

def timeLayout : Layout where
  pieces := [.part .hour, .literal ':' false, .part .minute, .literal ':' false, .part .second]
  plain := by decide
  carries := ⟨.hour, by decide⟩
  seconds := by decide
  starts := by decide
  ends := by decide

def dateLayout : Layout where
  pieces := [.part .year, .literal '-' false, .part .month, .literal '-' false, .part .day]
  plain := by decide
  carries := ⟨.year, by decide⟩
  seconds := by decide
  starts := by decide
  ends := by decide

def dateTimeLayout : Layout where
  pieces := dateLayout.pieces ++ .literal ' ' false :: timeLayout.pieces
  plain := by decide
  carries := ⟨.year, by decide⟩
  seconds := by decide
  starts := by decide
  ends := by decide

namespace Layout

/-- What any date and time look like under the pattern. -/
def written? (layout : Layout) (date : CalendarDate) (time : TimeOfDay) : Option (List Char) :=
  Writing.text? (some date) (some time) (layout.pieces.foldr Piece.put [])

variable {layout : Layout} {value : String}

theorem exists_written (h : isDateUnder value (String.ofList layout.spelling) = true) :
    ∃ date time, date.isValid = true ∧ time.isValid = true ∧
      layout.written? date time = some (trim value.toList) := by
  obtain ⟨format, components, hformat, hwritten⟩ := isWritten_of_isDateUnder h
  obtain ⟨own, hspelled, hitems⟩ := layout.format?_spelling
  rw [String.toList_ofList, hspelled] at hformat
  obtain ⟨rfl, -⟩ := Prod.mk.inj (Option.some.inj hformat)
  rwa [hitems] at hwritten

theorem isDateUnder_of_written (m : Moment)
    (hstandard : ∀ part, part ∉ layout.parts → m.value part = part.standard)
    (h : layout.written? m.date m.time = some (trim value.toList)) :
    isDateUnder value (String.ofList layout.spelling) = true := by
  have htext : layout.written? m.date m.time = some (layout.text m) :=
    m.text?_text layout.pieces (fun _ _ _ => rfl) fun _ _ _ => rfl
  exact layout.isDateUnder_of_trim hstandard (Option.some.inj (h.symm.trans htext))

end Layout

variable (date : CalendarDate) (time : TimeOfDay)

theorem timeLayout_written : timeLayout.written? date time = some time.text := by
  have htext : timeLayout.written? date time =
      some (joined ':' (Writing.padded 2 time.hour) (Writing.padded 2 time.minute)
        (Writing.padded 2 time.second ++ [])) := rfl
  rw [htext, List.append_nil, TimeOfDay.text]

theorem dateLayout_written : dateLayout.written? date time = some date.text := by
  have htext : dateLayout.written? date time =
      some (joined '-' (Writing.year true date.year) (Writing.padded 2 date.month)
        (Writing.padded 2 date.day ++ [])) := rfl
  rw [htext, List.append_nil, CalendarDate.text]

theorem dateTimeLayout_written :
    dateTimeLayout.written? date time = some (date.text ++ ' ' :: time.text) := by
  have htext : dateTimeLayout.written? date time =
      some (joined '-' (Writing.year true date.year) (Writing.padded 2 date.month)
        (Writing.padded 2 date.day ++ ' ' :: joined ':' (Writing.padded 2 time.hour)
          (Writing.padded 2 time.minute) (Writing.padded 2 time.second ++ []))) := rfl
  rw [htext, List.append_nil]
  simp only [CalendarDate.text, TimeOfDay.text, joined, List.append_assoc, List.cons_append]

/-! ### Values under the standard patterns -/

def Moment.ofValid (date : CalendarDate) (time : TimeOfDay)
    (hyear : 0 ≤ date.year ∧ date.year ≤ 9999) (hdate : date.isValid = true)
    (htime : time.isValid = true) : Moment where
  date := date
  time := time
  year_range := hyear
  isGregorian := (CalendarDate.isValid_iff.1 hdate).2
  clock := TimeOfDay.isValid_iff.1 htime

theorem DateDigits.year_range (digits : DateDigits) :
    0 ≤ digits.date.year ∧ digits.date.year ≤ 9999 := by
  have hyear : digits.year.value < 10000 := digits.year.value_lt
  have hdate : digits.date.year = digits.year.value := rfl
  omega

theorem DateDigits.isValid_iff {digits : DateDigits} :
    digits.date.isValid = true ↔
      IsGregorian digits.year.value digits.month.value digits.day.value := by
  have hyear := digits.year_range
  have hrange : firstYear ≤ digits.date.year ∧ digits.date.year ≤ lastYear := by
    rw [firstYear, lastYear]
    omega
  exact CalendarDate.isValid_iff.trans (and_iff_right hrange)

variable {value : String}

theorem isDateUnder_time_iff :
    isDateUnder value standardTimePattern = true ↔
      ∃ digits : TimeDigits, trim value.toList = digits.chars ∧ digits.time.isValid = true := by
  constructor
  · intro h
    obtain ⟨date, time, -, hvalid, htext⟩ := timeLayout.exists_written h
    obtain ⟨digits, rfl⟩ := TimeOfDay.exists_digits hvalid
    rw [timeLayout_written, digits.text_time] at htext
    exact ⟨digits, (Option.some.inj htext).symm, hvalid⟩
  · intro ⟨digits, htext, hvalid⟩
    let m : Moment := .ofValid ⟨2000, 1, 1⟩ digits.time (by decide) (by decide) hvalid
    have hstandard : ∀ part, part ∉ timeLayout.parts → m.value part = part.standard := by
      intro part hlacks
      cases part <;> first | rfl | exact absurd (by decide) hlacks
    apply Layout.isDateUnder_of_written m hstandard
    rw [timeLayout_written, htext, ← digits.text_time]
    rfl

theorem isDateUnder_date_iff {digits : DateDigits} (htext : trim value.toList = digits.chars) :
    isDateUnder value standardDatePattern = true ↔ digits.date.isValid = true := by
  constructor
  · intro h
    obtain ⟨date, time, hvalid, -, hwritten⟩ := dateLayout.exists_written h
    rw [dateLayout_written, htext] at hwritten
    rwa [DateDigits.date_of_text hvalid (Option.some.inj hwritten)]
  · intro hvalid
    let m : Moment := .ofValid digits.date ⟨0, 0, 0⟩ digits.year_range hvalid (by decide)
    have hstandard : ∀ part, part ∉ dateLayout.parts → m.value part = part.standard := by
      intro part hlacks
      cases part <;> first | rfl | exact absurd (by decide) hlacks
    apply Layout.isDateUnder_of_written m hstandard
    rw [dateLayout_written, htext, ← digits.text_date]
    rfl

theorem isDateUnder_dateTime_iff {day : DateDigits} {clock : TimeDigits}
    (htext : trim value.toList = day.chars ++ ' ' :: clock.chars) :
    isDateUnder value standardDateTimePattern = true ↔
      day.date.isValid = true ∧ clock.time.isValid = true := by
  constructor
  · intro h
    obtain ⟨date, time, hdate, htime, hwritten⟩ := dateTimeLayout.exists_written h
    rw [dateTimeLayout_written, htext] at hwritten
    obtain ⟨hday, hclock⟩ := text_of_written hdate htime (Option.some.inj hwritten)
    rw [hday, hclock]
    exact ⟨hdate, htime⟩
  · intro ⟨hdate, htime⟩
    let m : Moment := .ofValid day.date clock.time day.year_range hdate htime
    have hstandard : ∀ part, part ∉ dateTimeLayout.parts → m.value part = part.standard := by
      intro part hlacks
      cases part <;> exact absurd (by decide) hlacks
    apply Layout.isDateUnder_of_written m hstandard
    rw [dateTimeLayout_written, htext, ← day.text_date, ← clock.text_time]
    rfl

end Date

/-- The times of the standard pattern are those of the clock, and whatever has the form of a date,
or of a date and a time, is one if there is such a day of the calendar and such a time of the
clock. -/
theorem isDateUnder_standard (value : String) :
    (isDateUnder value standardTimePattern = true ↔
      ∃ time : TimeDigits, trim value.toList = time.chars ∧
        time.hour.value < 24 ∧ time.minute.value < 60 ∧ time.second.value < 60) ∧
    ∀ date : DateDigits,
      (trim value.toList = date.chars →
        (isDateUnder value standardDatePattern = true ↔
          IsGregorian date.year.value date.month.value date.day.value)) ∧
      ∀ time : TimeDigits, trim value.toList = date.chars ++ ' ' :: time.chars →
        (isDateUnder value standardDateTimePattern = true ↔
          IsGregorian date.year.value date.month.value date.day.value ∧
          time.hour.value < 24 ∧ time.minute.value < 60 ∧ time.second.value < 60) := by
  have hclock : ∀ time : TimeDigits, time.time.isValid = true ↔
      time.hour.value < 24 ∧ time.minute.value < 60 ∧ time.second.value < 60 :=
    fun _ => TimeOfDay.isValid_iff
  refine ⟨?_, fun date => ⟨fun htext => ?_, fun time htext => ?_⟩⟩
  · simp only [isDateUnder_time_iff, hclock]
  · rw [isDateUnder_date_iff htext, DateDigits.isValid_iff]
  · rw [isDateUnder_dateTime_iff htext, DateDigits.isValid_iff, hclock]

/-- The last day of February in a year that ends a century, and in the year 2000 to the last second
of the day. -/
theorem isDateUnder_standard_leapDay :
    let century : DateDigits :=
      ⟨⟨"1900".toList, rfl, by decide⟩, ⟨"02".toList, rfl, by decide⟩, ⟨"29".toList, rfl, by decide⟩⟩
    let leapDay : DateDigits := { century with year := ⟨"2000".toList, rfl, by decide⟩ }
    let time : TimeDigits :=
      ⟨⟨"23".toList, rfl, by decide⟩, ⟨"59".toList, rfl, by decide⟩, ⟨"59".toList, rfl, by decide⟩⟩
    trim " 1900-02-29".toList = century.chars ∧
      trim "2000-02-29 23:59:59 ".toList = leapDay.chars ++ ' ' :: time.chars ∧
      ¬isDateUnder " 1900-02-29" standardDatePattern = true ∧
      isDateUnder "2000-02-29 23:59:59 " standardDateTimePattern = true := by
  intro century leapDay time
  have hcentury : trim " 1900-02-29".toList = century.chars := by decide
  have hleapDay : trim "2000-02-29 23:59:59 ".toList = leapDay.chars ++ ' ' :: time.chars := by
    decide
  have hnone := ((isDateUnder_standard " 1900-02-29").2 century).1 hcentury
  have hlast := ((isDateUnder_standard "2000-02-29 23:59:59 ").2 leapDay).2 time hleapDay
  rw [isGregorian_iff] at hnone hlast
  refine ⟨hcentury, hleapDay, ?_, ?_⟩
  · rw [hnone]
    decide
  · rw [hlast]
    decide

end FormRules
