import FormRules.Proofs.Date.Writing

/-!
# Missing hours

Reading enters one component after the other, and completion leaves the hour alone where a pattern
asks for noon.  Without an hour or a timestamp there is no time then, and seconds are not written
where a pattern is not about a time, so that either way no value is accepted.
-/

namespace FormRules

open FormRules.Text FormRules.Date

namespace Date

/-! ### What reading enters -/

def Component.enter (component : Component) (fields : Fields) (n : Int) :
    Except FieldError Fields :=
  match component with
  | .year => fields.setYear n
  | .shortYear => fields.setShortYear n
  | .month => fields.setMonth n
  | .day => fields.setDay n
  | .hour => fields.setHour n
  | .clockHour => fields.setClockHour n
  | .minute => fields.setMinute n
  | .second => fields.setSecond n
  | .timestamp => fields.setTimestamp n
  | .monthName _ => fields.setMonth n
  | .weekdayName _ => fields.setWeekday n.toNat
  | .meridiem _ => fields.setAfternoon (n = 1)

theorem Reading.exists_enter {component : Component} {fields after : Fields} {s rest : List Char}
    (h : component? component fields s = some (after, rest)) :
    ∃ n, component.enter fields n = .ok after := by
  cases component with
  | meridiem upper =>
    simp only [component?] at h
    split at h
    · split at h
      · rename_i read hset
        obtain ⟨rfl, -⟩ := Prod.mk.inj (Option.some.inj h)
        exact ⟨0, hset⟩
      · cases h
    · split at h
      · split at h
        · rename_i read hset
          obtain ⟨rfl, -⟩ := Prod.mk.inj (Option.some.inj h)
          exact ⟨1, hset⟩
        · cases h
      · cases h
  | _ =>
    simp only [component?] at h
    split at h
    · cases h
    · rename_i n behind hread
      split at h
      · rename_i read hset
        obtain ⟨rfl, -⟩ := Prod.mk.inj (Option.some.inj h)
        exact ⟨n, hset⟩
      · cases h

/-! ### Noon without an hour -/

def Component.bringsHour : Component → Bool
  | .hour => true
  | .clockHour => true
  | .timestamp => true
  | _ => false

namespace Fields

/-- Neither the hour nor a timestamp is known. -/
def LacksHour (fields : Fields) : Prop := fields.halfDayHour = none ∧ fields.timestamp = none

variable {fields after : Fields}

theorem lacksHour_of_map {α : Type} {step : Except FieldError α} {set : α → Fields}
    (h : step.map set = .ok after) (hset : ∀ value, (set value).LacksHour) : after.LacksHour := by
  cases step with
  | error e => exact nomatch h
  | ok value =>
    rw [← Except.ok.inj h]
    exact hset value

theorem LacksHour.enter (hlacks : fields.LacksHour) {component : Component} {n : Int}
    (hbrings : component.bringsHour = false) (h : component.enter fields n = .ok after) :
    after.LacksHour := by
  cases component with
  | hour => exact nomatch hbrings
  | clockHour => exact nomatch hbrings
  | timestamp => exact nomatch hbrings
  | weekdayName long => exact lacksHour_of_map h fun _ => hlacks
  | meridiem upper => exact lacksHour_of_map h fun _ => hlacks
  | _ => exact lacksHour_of_map (eq_ok_of_guard h).2 fun _ => hlacks

theorem LacksHour.fields? {items : List Item} {s : List Char}
    (hitems : ∀ component padded, .field component padded ∈ items → component.bringsHour = false)
    (hlacks : fields.LacksHour) (h : Reading.fields? items fields s = some after) :
    after.LacksHour := by
  induction items generalizing fields s with
  | nil =>
    rw [Reading.fields?] at h
    split at h
    · rwa [← Option.some.inj h]
    · exact nomatch h
  | cons item items ih =>
    have hbehind : ∀ component padded, .field component padded ∈ items →
        component.bringsHour = false :=
      fun component padded hmem => hitems component padded (List.mem_cons_of_mem item hmem)
    cases item with
    | literal text =>
      rw [Reading.fields?] at h
      split at h
      · exact ih hbehind hlacks h
      · exact nomatch h
    | blank text => exact ih hbehind hlacks h
    | field component padded =>
      rw [Reading.fields?] at h
      split at h
      · rename_i read rest hread
        obtain ⟨n, henter⟩ := Reading.exists_enter hread
        exact ih hbehind (hlacks.enter (hitems component padded List.mem_cons_self) henter) h
      · exact nomatch h
    | invalid => exact nomatch h

theorem LacksHour.setWhen (hlacks : fields.LacksHour) {condition : Bool} (component : Component)
    (n : Int) (hbrings : condition = true → component.bringsHour = false)
    (h : setWhen condition (component.enter · n) fields = .ok after) : after.LacksHour := by
  rw [Date.setWhen] at h
  split at h
  · rename_i hcondition
    exact hlacks.enter (hbrings hcondition) h
  · rwa [← Except.ok.inj h]

/-- Before or after noon, an hour that the pattern lacks is not filled in. -/
theorem LacksHour.completed (hlacks : fields.LacksHour) {components : Components}
    (hmeridiem : components.meridiem = true) (h : completed components fields = .ok after) :
    after.LacksHour := by
  have hkept : (components.concernsTime && !components.hour && !components.meridiem) = false := by
    rw [hmeridiem, Bool.not_true, Bool.and_false]
  rw [Date.completed] at h
  split at h
  · rwa [← Except.ok.inj h]
  · obtain ⟨_, hyear, h⟩ := exists_of_bind_eq_ok h
    obtain ⟨_, hmonth, h⟩ := exists_of_bind_eq_ok h
    obtain ⟨_, hday, h⟩ := exists_of_bind_eq_ok h
    obtain ⟨_, hhour, h⟩ := exists_of_bind_eq_ok h
    obtain ⟨_, hnoon, h⟩ := exists_of_bind_eq_ok h
    have hlacks := hlacks.setWhen .year 2000 (fun _ => rfl) hyear
    have hlacks := hlacks.setWhen .month 1 (fun _ => rfl) hmonth
    have hlacks := hlacks.setWhen .day 1 (fun _ => rfl) hday
    have hlacks := hlacks.setWhen .hour 0 (fun hasked => nomatch hkept.symm.trans hasked) hhour
    have hlacks := hlacks.setWhen (.meridiem true) 0 (fun _ => rfl) hnoon
    exact hlacks.setWhen .minute 0 (fun _ => rfl) h

theorem LacksHour.time?_eq (hlacks : fields.LacksHour) : fields.time? = .error .notEnough := by
  rw [time?, hlacks.1]
  cases fields.afternoon <;> rfl

end Fields

theorem render_of_lacksHour {components : Components} {items : List Item} {fields : Fields}
    (hlacks : fields.LacksHour) (htime : components.concernsTime = true) :
    render components items fields = none := by
  have hnone : ∃ e, fields.dateTime? = .error e := by
    rw [Fields.dateTime?, hlacks.time?_eq, hlacks.2]
    cases fields.date? with
    | error e => exact ⟨e, rfl⟩
    | ok date => exact ⟨_, rfl⟩
  obtain ⟨e, hnone⟩ := hnone
  unfold render
  rw [htime]
  cases components.concernsDate with
  | true => simp only [hnone]
  | false => simp only [hlacks.time?_eq]

theorem readAndWrite_of_meridiem {components : Components} {items : List Item}
    (hmeridiem : components.meridiem = true)
    (hitems : ∀ component padded, .field component padded ∈ items → component.bringsHour = false)
    (s : List Char) : readAndWrite components items s = none := by
  have htime : components.concernsTime = true := by
    rw [Components.concernsTime, hmeridiem, Bool.or_true, Bool.true_or]
  have hempty : Fields.LacksHour {} := ⟨rfl, rfl⟩
  cases hresult : readAndWrite components items s with
  | none => rfl
  | some t =>
    obtain ⟨read, after, hread, hcompleted, hrender⟩ := exists_of_readAndWrite hresult
    have hlacks : after.LacksHour := (hempty.fields? hitems hread).completed hmeridiem hcompleted
    exact nomatch (render_of_lacksHour hlacks htime).symm.trans hrender

/-! ### Seconds without a time -/

theorem Writing.text?_of_mem {date : Option CalendarDate} {time : Option TimeOfDay}
    {component : Component} {padded : Bool} {items : List Item}
    (hmem : .field component padded ∈ items)
    (hnone : component? date time padded component = none) : text? date time items = none := by
  induction items with
  | nil => exact absurd hmem List.not_mem_nil
  | cons item items ih =>
    cases item with
    | literal text =>
      simp only [List.mem_cons, reduceCtorEq, false_or] at hmem
      rw [text?, ih hmem, Option.map_none]
    | blank text =>
      simp only [List.mem_cons, reduceCtorEq, false_or] at hmem
      rw [text?, ih hmem, Option.map_none]
    | field other pad =>
      rw [text?]
      rcases List.mem_cons.1 hmem with heq | hmem
      · obtain ⟨rfl, rfl⟩ := Item.field.inj heq
        rw [hnone]
      · rw [ih hmem]
        cases component? date time pad other <;> rfl
    | invalid => rfl

theorem readAndWrite_of_second {components : Components} {items : List Item} {padded : Bool}
    (htime : components.concernsTime = false) (hsecond : .field .second padded ∈ items)
    (s : List Char) : readAndWrite components items s = none := by
  have hnone : ∀ fields, render components items fields = none := by
    intro fields
    unfold render
    rw [htime]
    cases components.concernsDate with
    | true =>
      cases fields.date? with
      | ok date => exact Writing.text?_of_mem hsecond rfl
      | error e => rfl
    | false => rfl
  cases hresult : readAndWrite components items s with
  | none => rfl
  | some t =>
    obtain ⟨read, after, -, -, hrender⟩ := exists_of_readAndWrite hresult
    exact nomatch (hnone after).symm.trans hrender

end Date

end FormRules
