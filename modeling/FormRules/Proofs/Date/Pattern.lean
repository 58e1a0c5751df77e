import FormRules.Date.Check

/-!
# What a date pattern asks for

A component that a pattern carries stands in its format as a field, and no field can be read from
an empty text.  A pattern without components makes up neither a date nor a time, so no pattern
takes an empty text for a date.
-/

namespace FormRules

open FormRules.Text

namespace Date

/-! ### Fields of a format -/

/-- Whether the item is a field. -/
def Item.isField : Item → Bool
  | .field _ _ => true
  | _ => false

theorem Item.any_isField_consChar (c : Char) (items : List Item) :
    (Item.consChar c items).any Item.isField = items.any Item.isField := by
  unfold Item.consChar
  split
  · split <;> rfl
  · split <;> rfl

/-- A character that is no percent sign joins the items of the format behind it. -/
theorem Item.ofFormat_cons {c : Char} (h : c ≠ '%') (format : List Char) :
    Item.ofFormat (c :: format) = Item.consChar c (Item.ofFormat format) := by
  rw [Item.ofFormat.eq_def]
  split
  next heq => exact nomatch heq
  next heq => exact absurd (List.cons.inj heq).1 h
  next heq => exact absurd (List.cons.inj heq).1 h
  next heq => exact absurd (List.cons.inj heq).1 h
  next heq =>
    obtain ⟨rfl, rfl⟩ := List.cons.inj heq
    rfl

theorem Item.any_isField_literalFormat (c : Char) (format : List Char) :
    (Item.ofFormat (literalFormat c ++ format)).any Item.isField =
      (Item.ofFormat format).any Item.isField := by
  unfold literalFormat
  split
  · rfl
  next hc =>
    rw [List.singleton_append, Item.ofFormat_cons hc, Item.any_isField_consChar]

/-- A pattern letter is written as one field. -/
theorem ofFormat_letterFormat {c : Char} {field : List Char} (h : letterFormat c = some field)
    (format : List Char) : ∃ component padded,
      Item.ofFormat (field ++ format) = .field component padded :: Item.ofFormat format := by
  unfold letterFormat at h
  split at h
  case h_20 => exact nomatch h
  all_goals
    cases h
    exact ⟨_, _, rfl⟩

/-- The components change only by letters, and these leave fields in the format. -/
theorem components_or_isField {pattern format : List Char} {before after : Components}
    (h : DatePattern.formatFrom? before pattern = some (format, after)) :
    after = before ∨ (Item.ofFormat format).any Item.isField = true := by
  fun_induction DatePattern.formatFrom? before pattern generalizing format after with
  | case1 before =>
    obtain ⟨-, rfl⟩ := Prod.mk.inj (Option.some.inj h)
    exact Or.inl rfl
  | case2 before => exact nomatch h
  | case3 before c rest ih =>
    obtain ⟨⟨format', after'⟩, hrest, heq⟩ := Option.map_eq_some_iff.1 h
    obtain ⟨rfl, rfl⟩ := Prod.mk.inj heq
    rw [Item.any_isField_literalFormat]
    exact ih hrest
  | case4 before c rest _ _ field hc ih =>
    obtain ⟨⟨format', after'⟩, hrest, heq⟩ := Option.map_eq_some_iff.1 h
    obtain ⟨rfl, rfl⟩ := Prod.mk.inj heq
    obtain ⟨component, padded, hitems⟩ := ofFormat_letterFormat hc format'
    exact Or.inr (by rw [hitems]; rfl)
  | case5 before c rest _ _ hc hreserved => exact nomatch h
  | case6 before c rest _ _ hc hreserved ih =>
    obtain ⟨⟨format', after'⟩, hrest, heq⟩ := Option.map_eq_some_iff.1 h
    obtain ⟨rfl, rfl⟩ := Prod.mk.inj heq
    rw [Item.any_isField_literalFormat]
    exact ih hrest

/-! ### Empty texts -/

theorem Reading.component?_nil (component : Component) (fields : Fields) :
    Reading.component? component fields [] = none := by
  cases component with
  | monthName long => cases long <;> rfl
  | weekdayName long => cases long <;> rfl
  | _ => rfl

/-- No field can be read from an empty text. -/
theorem Reading.fields?_nil {items : List Item} (h : items.any Item.isField = true)
    (fields : Fields) : Reading.fields? items fields [] = none := by
  induction items with
  | nil => exact nomatch h
  | cons item items ih =>
    cases item with
    | literal text =>
      cases text with
      | nil => exact ih h
      | cons c text => rfl
    | blank text => exact ih h
    | field component padded => rw [Reading.fields?, Reading.component?_nil]
    | invalid => rfl

/-- Without components there is nothing to write. -/
theorem render_empty (items : List Item) (fields : Fields) : render {} items fields = none := rfl

theorem readAndWrite_nil {pattern format : List Char} {components : Components}
    (h : DatePattern.format? pattern = some (format, components)) :
    readAndWrite components (Item.ofFormat format) [] = none := by
  -- without components nothing is written, and with one of them nothing is read
  unfold readAndWrite
  rcases components_or_isField h with rfl | hfield
  · split
    · rfl
    · split
      · rfl
      · split
        · exact render_empty _ _
        · rfl
  · rw [Reading.fields?_nil hfield]

end Date

/-- A blank value is no date, whatever the pattern. -/
theorem isDateUnder_of_blank {value : String} (h : trim value.toList = []) (pattern : String) :
    isDateUnder value pattern = false := by
  unfold isDateUnder
  simp only [h]
  split
  next format components hformat =>
    rw [Date.readAndWrite_nil hformat]
    rfl
  · rfl

end FormRules
