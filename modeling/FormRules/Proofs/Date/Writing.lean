import FormRules.Date.Check
import Mathlib.Tactic.Common

/-!
# What is accepted is what is written

Reading is lenient, but what it leads to is written again.  A value that is accepted is, trimmed,
what some date and some time look like under the format, whatever the pattern.
-/

namespace FormRules

open FormRules.Text FormRules.Date

namespace Date

variable {fields : Fields} {date : CalendarDate} {time : TimeOfDay}

/-! ### Fields make up dates and times that there are -/

theorem eq_ok_of_guard {ε α : Type} {p : Prop} [Decidable p] {step : Except ε α} {e : ε} {a : α}
    (h : (if p then step else .error e) = .ok a) : p ∧ step = .ok a := by
  by_cases hp : p
  · rw [if_pos hp] at h
    exact ⟨hp, h⟩
  · rw [if_neg hp] at h
    exact nomatch h

theorem exists_of_bind_eq_ok {ε α β : Type} {step : Except ε α} {rest : α → Except ε β} {b : β}
    (h : step >>= rest = .ok b) : ∃ a, step = .ok a ∧ rest a = .ok b := by
  cases step with
  | error e => exact nomatch h
  | ok a => exact ⟨a, rfl, h⟩

namespace Fields

theorem isValid_of_date? (h : fields.date? = .ok date) : date.isValid = true := by
  unfold date? at h
  split at h
  · exact nomatch h
  · split at h
    · obtain ⟨hvalid, h⟩ := eq_ok_of_guard h
      split at h
      · rw [← Except.ok.inj h]
        exact hvalid
      · obtain ⟨-, h⟩ := eq_ok_of_guard h
        rw [← Except.ok.inj h]
        exact hvalid
    · exact nomatch h

theorem isValid_of_time? (h : fields.time? = .ok time) : time.isValid = true := by
  unfold time? at h
  split at h
  · obtain ⟨hvalid, h⟩ := eq_ok_of_guard h
    rw [← Except.ok.inj h]
    exact hvalid
  · exact nomatch h

theorem isValid_of_ofTimestamp? {seconds : Int}
    (h : fields.ofTimestamp? seconds = .ok (date, time)) :
    date.isValid = true ∧ time.isValid = true := by
  have hclock : (seconds % 86400).toNat < 86400 := by omega
  obtain ⟨hvalid, h⟩ := eq_ok_of_guard h
  split at h
  · exact nomatch h
  · obtain ⟨-, h⟩ := eq_ok_of_guard h
    obtain ⟨hdate, htime⟩ := Prod.mk.inj (Except.ok.inj h)
    rw [← hdate, ← htime]
    exact ⟨hvalid, TimeOfDay.ofSeconds_isValid hclock⟩

theorem isValid_of_dateTime? (h : fields.dateTime? = .ok (date, time)) :
    date.isValid = true ∧ time.isValid = true := by
  unfold dateTime? at h
  split at h
  case h_1 hdate htime _ =>
    obtain ⟨rfl, rfl⟩ := Prod.mk.inj (Except.ok.inj h)
    exact ⟨isValid_of_date? hdate, isValid_of_time? htime⟩
  case h_2 hdate htime _ =>
    obtain ⟨-, h⟩ := eq_ok_of_guard h
    obtain ⟨rfl, rfl⟩ := Prod.mk.inj (Except.ok.inj h)
    exact ⟨isValid_of_date? hdate, isValid_of_time? htime⟩
  case h_9 => exact isValid_of_ofTimestamp? h
  all_goals exact nomatch h

end Fields

/-! ### Writing with more than is needed -/

theorem Writing.component?_mono {date : Option CalendarDate} {time : Option TimeOfDay}
    {pad : Bool} {component : Component} {s : List Char} (anyDate : CalendarDate)
    (anyTime : TimeOfDay) (h : component? date time pad component = some s) :
    component? (some (date.getD anyDate)) (some (time.getD anyTime)) pad component = some s := by
  cases date <;> cases time <;> cases component <;> first | exact h | exact nomatch h

theorem Writing.text?_mono {date : Option CalendarDate} {time : Option TimeOfDay}
    {items : List Item} {s : List Char} (anyDate : CalendarDate) (anyTime : TimeOfDay)
    (h : text? date time items = some s) :
    text? (some (date.getD anyDate)) (some (time.getD anyTime)) items = some s := by
  induction items generalizing s with
  | nil => exact h
  | cons item items ih =>
    cases item with
    | literal text =>
      obtain ⟨rest, hrest, heq⟩ := Option.map_eq_some_iff.1 h
      rw [text?, ih hrest, Option.map_some, heq]
    | blank text =>
      obtain ⟨rest, hrest, heq⟩ := Option.map_eq_some_iff.1 h
      rw [text?, ih hrest, Option.map_some, heq]
    | field component pad =>
      rw [text?] at h ⊢
      split at h
      · rename_i first rest hfirst hrest
        rw [component?_mono anyDate anyTime hfirst, ih hrest]
        exact h
      · exact nomatch h
    | invalid => exact nomatch h

/-! ### The text that is accepted -/

/-- A date and a time that there are, and that look like this under a format. -/
def IsWritten (items : List Item) (s : List Char) : Prop :=
  ∃ date time, date.isValid = true ∧ time.isValid = true ∧
    Writing.text? (some date) (some time) items = some s

theorem isWritten_of_render {components : Components} {items : List Item} {s : List Char}
    (h : render components items fields = some s) : IsWritten items s := by
  have hnewYear : CalendarDate.isValid ⟨2000, 1, 1⟩ = true := by decide
  have hmidnight : TimeOfDay.isValid ⟨0, 0, 0⟩ = true := by decide
  -- where only a date or only a time is known, any other goes with it
  unfold render at h
  split at h
  · split at h
    · rename_i date time hfields
      obtain ⟨hdate, htime⟩ := Fields.isValid_of_dateTime? hfields
      exact ⟨date, time, hdate, htime, h⟩
    · exact nomatch h
  · split at h
    · rename_i date hfields
      exact ⟨date, ⟨0, 0, 0⟩, Fields.isValid_of_date? hfields, hmidnight,
        Writing.text?_mono ⟨2000, 1, 1⟩ ⟨0, 0, 0⟩ h⟩
    · exact nomatch h
  · split at h
    · rename_i time hfields
      exact ⟨⟨2000, 1, 1⟩, time, hnewYear, Fields.isValid_of_time? hfields,
        Writing.text?_mono ⟨2000, 1, 1⟩ ⟨0, 0, 0⟩ h⟩
    · exact nomatch h
  · exact nomatch h

theorem exists_of_readAndWrite {components : Components} {items : List Item} {s t : List Char}
    (h : readAndWrite components items s = some t) :
    ∃ read after, Reading.fields? items {} s = some read ∧ completed components read = .ok after ∧
      render components items after = some t := by
  unfold readAndWrite at h
  split at h
  · exact nomatch h
  · rename_i read hread
    split at h
    · exact nomatch h
    · split at h
      · rename_i after hcompleted
        exact ⟨read, after, hread, hcompleted, h⟩
      · exact nomatch h

theorem isWritten_of_readAndWrite {components : Components} {items : List Item} {s t : List Char}
    (h : readAndWrite components items s = some t) : IsWritten items t := by
  obtain ⟨read, after, -, -, hrender⟩ := exists_of_readAndWrite h
  exact isWritten_of_render hrender

end Date

theorem isWritten_of_isDateUnder {value pattern : String} (h : isDateUnder value pattern = true) :
    ∃ format components, DatePattern.format? pattern.toList = some (format, components) ∧
      IsWritten (Item.ofFormat format) (trim value.toList) := by
  unfold isDateUnder at h
  split at h
  · rename_i format components hformat
    exact ⟨format, components, hformat, isWritten_of_readAndWrite (beq_iff_eq.1 h)⟩
  · exact nomatch h

end FormRules
