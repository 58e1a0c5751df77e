import FormRules.Proofs.Date.RoundTrip

/-!
# Patterns mark by mark

A pattern is a row of marks, each a character by itself or one behind a backslash.  A letter of the
table stands for a field where it is by itself, and every other mark for the character in it.
`format?_marks` says which patterns have no format, and that the format of any other is read as the
fields and the text of its marks, so that no mark can put anything else into a format.
-/

namespace FormRules.Date

/-- The field that a letter of a pattern asks for, and whether it is padded. -/
def letterField? : Char → Option (Component × Bool)
  | 'Y' => some (.year, true)
  | 'y' => some (.shortYear, true)
  | 'm' => some (.month, true)
  | 'n' => some (.month, false)
  | 'M' => some (.monthName false, true)
  | 'F' => some (.monthName true, true)
  | 'd' => some (.day, true)
  | 'j' => some (.day, false)
  | 'D' => some (.weekdayName false, true)
  | 'l' => some (.weekdayName true, true)
  | 'H' => some (.hour, true)
  | 'G' => some (.hour, false)
  | 'h' => some (.clockHour, true)
  | 'g' => some (.clockHour, false)
  | 'i' => some (.minute, true)
  | 's' => some (.second, true)
  | 'A' => some (.meridiem true, true)
  | 'a' => some (.meridiem false, true)
  | 'U' => some (.timestamp, false)
  | _ => none

/-- A mark of a pattern: a character by itself, or one behind a backslash. -/
inductive Mark
  | bare (c : Char) (ne_backslash : c ≠ '\\')
  | escaped (c : Char)

namespace Mark

def spelling : Mark → List Char
  | bare c _ => [c]
  | escaped c => ['\\', c]

def char : Mark → Char
  | bare c _ => c
  | escaped c => c

def field? : Mark → Option (Component × Bool)
  | bare c _ => letterField? c
  | escaped _ => none

def isReserved : Mark → Bool
  | bare c _ => isReservedLetter c
  | escaped _ => false

/-- What the mark stands for: a field, or the character in it. -/
def item (mark : Mark) : Item :=
  match mark.field? with
  | some (component, padded) => .field component padded
  | none => .literal [mark.char]

/-- The mark as it stands in a format. -/
def format : Mark → List Char
  | bare c _ => (letterFormat c).getD (literalFormat c)
  | escaped c => literalFormat c

/-- The components of a pattern that goes on with the mark. -/
def carry (components : Components) : Mark → Components
  | bare c _ => components.add c
  | escaped _ => components

/-- The items of a format that starts with the mark. -/
def put (mark : Mark) (items : List Item) : List Item :=
  match mark.field? with
  | some (component, padded) => .field component padded :: items
  | none => Piece.put (.literal mark.char true) items

end Mark

def spelled (marks : List Mark) : List Char := marks.flatMap Mark.spelling

theorem spelled_append (marks others : List Mark) :
    spelled (marks ++ others) = spelled marks ++ spelled others := List.flatMap_append

/-- Every pattern is a row of marks, with or without a lone backslash behind it. -/
theorem exists_marks : ∀ pattern : List Char,
    ∃ marks, pattern = spelled marks ∨ pattern = spelled marks ++ ['\\']
  | [] => ⟨[], Or.inl rfl⟩
  | [c] => by
    by_cases hc : c = '\\'
    · exact ⟨[], Or.inr (congrArg ([·]) hc)⟩
    · exact ⟨[.bare c hc], Or.inl rfl⟩
  | c :: d :: rest => by
    by_cases hc : c = '\\'
    · obtain ⟨marks, hrest⟩ := exists_marks rest
      rw [hc]
      exact ⟨.escaped d :: marks, hrest.imp (congrArg ('\\' :: d :: ·)) (congrArg ('\\' :: d :: ·))⟩
    · obtain ⟨marks, hrest⟩ := exists_marks (d :: rest)
      exact ⟨.bare c hc :: marks, hrest.imp (congrArg (c :: ·)) (congrArg (c :: ·))⟩

/-! ### Formats -/

theorem ofFormat_letterField {c : Char} {text : List Char} (h : letterFormat c = some text) :
    ∃ component padded, letterField? c = some (component, padded) ∧
      ∀ format,
        Item.ofFormat (text ++ format) = .field component padded :: Item.ofFormat format := by
  unfold letterFormat at h
  split at h
  case h_20 => exact nomatch h
  all_goals
    cases h
    exact ⟨_, _, rfl, fun _ => rfl⟩

theorem letterField?_of_letterFormat {c : Char} (h : letterFormat c = none) :
    letterField? c = none ∧ ∀ components : Components, components.add c = components := by
  unfold letterFormat at h
  split at h
  case h_20 =>
    constructor
    · unfold letterField?
      split <;> simp_all
    · intro components
      simp_all [Components.add]
  all_goals exact nomatch h

theorem isReservedLetter_of_letterFormat {c : Char} {text : List Char}
    (h : letterFormat c = some text) : isReservedLetter c = false := by
  unfold letterFormat at h
  split at h
  case h_20 => exact nomatch h
  all_goals rfl

theorem formatFrom?_mark (components : Components) (mark : Mark) (rest : List Char) :
    DatePattern.formatFrom? components (mark.spelling ++ rest) =
      if mark.isReserved then none
      else (DatePattern.formatFrom? (mark.carry components) rest).map fun (format, components) =>
        (mark.format ++ format, components) := by
  cases mark with
  | escaped c =>
    rw [Mark.spelling, List.cons_append, List.singleton_append, DatePattern.formatFrom?]
    rfl
  | bare c hc =>
    have hformat : (Mark.bare c hc).format = (letterFormat c).getD (literalFormat c) := rfl
    rw [Mark.spelling, List.singleton_append, Mark.carry, hformat]
    cases hletter : letterFormat c with
    | some text =>
      have hfree : ¬(Mark.bare c hc).isReserved = true := by
        rw [Mark.isReserved, isReservedLetter_of_letterFormat hletter]
        exact Bool.false_ne_true
      rw [if_neg hfree, DatePattern.formatFrom?_letter hletter]
      rfl
    | none =>
      rw [DatePattern.formatFrom?, hletter, (letterField?_of_letterFormat hletter).2]
      · rfl
      · exact fun heq _ => hc heq
      · exact fun _ _ heq _ => hc heq

/-- A pattern with a reserved letter has no format, whatever stands behind it; the format of any
other pattern starts with those of its marks. -/
theorem formatFrom?_spelled (components : Components) (marks : List Mark) (rest : List Char) :
    DatePattern.formatFrom? components (spelled marks ++ rest) =
      if marks.any Mark.isReserved then none
      else (DatePattern.formatFrom? (marks.foldl Mark.carry components) rest).map
        fun (format, components) => (marks.flatMap Mark.format ++ format, components) := by
  induction marks generalizing components with
  | nil => simp [spelled]
  | cons mark marks ih =>
    have hspelled : spelled (mark :: marks) ++ rest = mark.spelling ++ (spelled marks ++ rest) := by
      rw [spelled, List.flatMap_cons, List.append_assoc, spelled]
    rw [hspelled, formatFrom?_mark, ih, List.any_cons, List.foldl_cons, List.flatMap_cons]
    cases mark.isReserved <;> cases marks.any Mark.isReserved <;>
      simp [Function.comp_def]

theorem ofFormat_mark (mark : Mark) (format : List Char) :
    Item.ofFormat (mark.format ++ format) = mark.put (Item.ofFormat format) := by
  cases mark with
  | escaped c => exact ofFormat_literalFormat c format
  | bare c hc =>
    have hformat : (Mark.bare c hc).format = (letterFormat c).getD (literalFormat c) := rfl
    have hfield : (Mark.bare c hc).field? = letterField? c := rfl
    rw [hformat, Mark.put, hfield]
    cases hletter : letterFormat c with
    | some text =>
      obtain ⟨component, padded, hfield, hitems⟩ := ofFormat_letterField hletter
      rw [hfield]
      exact hitems format
    | none =>
      rw [(letterField?_of_letterFormat hletter).1]
      exact ofFormat_literalFormat c format

theorem ofFormat_marks (marks : List Mark) :
    Item.ofFormat (marks.flatMap Mark.format) = marks.foldr Mark.put [] := by
  induction marks with
  | nil => rfl
  | cons mark marks ih => rw [List.flatMap_cons, ofFormat_mark, ih, List.foldr_cons]

/-! ### Literal text put together -/

namespace Item

/-- Puts literal text in front of items, together with the literal text that they start with. -/
def joinText (text : List Char) : List Item → List Item
  | .literal more :: items => .literal (text ++ more) :: items
  | items => .literal text :: items

/-- The items with all literal text between two fields put together, blank or not. -/
def merged : List Item → List Item
  | [] => []
  | .literal text :: items => joinText text (merged items)
  | .blank text :: items => joinText text (merged items)
  | item :: items => item :: merged items

theorem joinText_joinText (text more : List Char) (items : List Item) :
    joinText text (joinText more items) = joinText (text ++ more) items := by
  cases items with
  | nil => rfl
  | cons item items =>
    cases item with
    | literal last => simp only [joinText, List.append_assoc]
    | _ => rfl

theorem mem_joinText {item : Item} (h : ∀ text, item ≠ .literal text) (text : List Char)
    (items : List Item) : item ∈ joinText text items ↔ item ∈ items := by
  unfold joinText
  split <;> simp [h]

theorem invalid_mem_merged (items : List Item) : .invalid ∈ merged items ↔ .invalid ∈ items := by
  have hinvalid : ∀ text, Item.invalid ≠ .literal text := fun _ => nofun
  induction items with
  | nil => rfl
  | cons item items ih =>
    cases item with
    | literal text => simp [merged, mem_joinText hinvalid, ih]
    | blank text => simp [merged, mem_joinText hinvalid, ih]
    | field component padded => simp [merged, ih]
    | invalid => simp [merged]

theorem merged_consChar (c : Char) (items : List Item) :
    merged (consChar c items) = joinText [c] (merged items) := by
  cases hc : Text.isBlank c with
  | false =>
    rcases consChar_of_solid hc items with ⟨text, rest, hitems, hcons⟩ | hcons
    · rw [hcons, hitems, merged, merged, joinText_joinText, List.singleton_append]
    · rw [hcons, merged]
  | true =>
    rcases consChar_of_blank hc items with ⟨text, rest, hitems, hcons⟩ | hcons
    · rw [hcons, hitems, merged, merged, joinText_joinText, List.singleton_append]
    · rw [hcons, merged]

theorem merged_cons_congr {items others : List Item} (h : merged items = merged others)
    (item : Item) : merged (item :: items) = merged (item :: others) := by
  cases item with
  | literal text => rw [merged, merged, h]
  | blank text => rw [merged, merged, h]
  | field component padded => simp only [merged, h]
  | invalid => simp only [merged, h]

theorem merged_put (mark : Mark) (items : List Item) :
    merged (mark.put items) = merged (mark.item :: items) := by
  unfold Mark.item Mark.put
  cases mark.field? with
  | some field => rfl
  | none =>
    have hput : Piece.put (.literal mark.char true) items = .literal [mark.char] :: items ∨
        Piece.put (.literal mark.char true) items = consChar mark.char items := by
      rw [Piece.put]
      split
      · exact Or.inl rfl
      · exact Or.inr rfl
    rcases hput with hput | hput
    · exact congrArg merged hput
    · exact (congrArg merged hput).trans (merged_consChar mark.char items)

theorem merged_marks (marks : List Mark) :
    merged (marks.foldr Mark.put []) = merged (marks.map Mark.item) := by
  induction marks with
  | nil => rfl
  | cons mark marks ih => rw [List.foldr_cons, List.map_cons, merged_put, merged_cons_congr ih]

theorem invalid_not_mem_items (marks : List Mark) : .invalid ∉ marks.map Mark.item := by
  intro hmem
  obtain ⟨mark, -, hitem⟩ := List.mem_map.1 hmem
  unfold Mark.item at hitem
  split at hitem <;> exact nomatch hitem

end Item

/-! ### Patterns -/

theorem format?_spelled (marks : List Mark) :
    DatePattern.format? (spelled marks) =
      if marks.any Mark.isReserved then none
      else some (marks.flatMap Mark.format, marks.foldl Mark.carry {}) := by
  rw [DatePattern.format?]
  simpa only [List.append_nil, DatePattern.formatFrom?, Option.map_some] using
    formatFrom?_spelled {} marks []

theorem format?_reserved (marks : List Mark) {c : Char} (hc : isReservedLetter c = true)
    (rest : List Char) : DatePattern.format? (spelled marks ++ c :: rest) = none := by
  have hbackslash : c ≠ '\\' := by
    intro heq
    rw [heq] at hc
    exact nomatch hc
  have hspelled : spelled marks ++ c :: rest = spelled (marks ++ [.bare c hbackslash]) ++ rest := by
    rw [spelled_append, List.append_assoc]
    rfl
  have hreserved : (marks ++ [Mark.bare c hbackslash]).any Mark.isReserved = true := by
    rw [List.any_append, List.any_cons, Mark.isReserved, hc, Bool.true_or, Bool.or_true]
  rw [DatePattern.format?, hspelled, formatFrom?_spelled, if_pos hreserved]

theorem format?_dangling (marks : List Mark) :
    DatePattern.format? (spelled marks ++ ['\\']) = none := by
  rw [DatePattern.format?, formatFrom?_spelled, DatePattern.formatFrom?, Option.map_none, ite_self]

/-- A pattern has no format where one of its letters is reserved or a lone backslash ends it.  The
format of any other pattern is read as one field for each letter of the table, in their order, with
all other characters between them as they are. -/
theorem format?_marks (pattern : List Char) :
    (DatePattern.format? pattern = none ↔
      (∃ marks c rest, pattern = spelled marks ++ c :: rest ∧ isReservedLetter c = true) ∨
        ∃ marks, pattern = spelled marks ++ ['\\']) ∧
    ∀ format components, DatePattern.format? pattern = some (format, components) →
      ∃ marks, pattern = spelled marks ∧ .invalid ∉ Item.ofFormat format ∧
        Item.merged (Item.ofFormat format) = Item.merged (marks.map Mark.item) := by
  obtain ⟨marks, hspelled | hdangling⟩ := exists_marks pattern
  · refine ⟨⟨fun hnone => ?_, fun h => ?_⟩, fun format components hformat => ?_⟩
    · rw [hspelled, format?_spelled] at hnone
      have hany : marks.any Mark.isReserved = true := by
        by_contra hfree
        rw [if_neg hfree] at hnone
        exact nomatch hnone
      obtain ⟨mark, hmem, hreserved⟩ := List.any_eq_true.1 hany
      obtain ⟨before, after, hmarks⟩ := List.append_of_mem hmem
      cases mark with
      | escaped c => exact nomatch hreserved
      | bare c hc =>
        refine Or.inl ⟨before, c, spelled after, ?_, hreserved⟩
        rw [hspelled, hmarks, spelled_append]
        rfl
    · rcases h with ⟨before, c, rest, hpattern, hreserved⟩ | ⟨before, hpattern⟩
      · rw [hpattern, format?_reserved before hreserved]
      · rw [hpattern, format?_dangling]
    · rw [hspelled, format?_spelled] at hformat
      split at hformat
      · exact nomatch hformat
      · obtain ⟨rfl, -⟩ := Prod.mk.inj (Option.some.inj hformat)
        have hmerged : Item.merged (Item.ofFormat (marks.flatMap Mark.format)) =
            Item.merged (marks.map Mark.item) := by
          rw [ofFormat_marks, Item.merged_marks]
        refine ⟨marks, hspelled, ?_, hmerged⟩
        rw [← Item.invalid_mem_merged, hmerged, Item.invalid_mem_merged]
        exact Item.invalid_not_mem_items marks
  · have hnone : DatePattern.format? pattern = none := by rw [hdangling, format?_dangling]
    refine ⟨iff_of_true hnone (Or.inr ⟨marks, hdangling⟩), fun format components hformat => ?_⟩
    exact nomatch hnone.symm.trans hformat

/-- A letter behind a backslash, and a percent sign in front of what would be a field. -/
theorem format?_marks_percent :
    DatePattern.format? "d\\Y%n".toList = some ("%dY%%%-m".toList, { day := true, month := true }) ∧
      ∃ marks, "d\\Y%n".toList = spelled marks ∧ .invalid ∉ Item.ofFormat "%dY%%%-m".toList ∧
        Item.merged (Item.ofFormat "%dY%%%-m".toList) = Item.merged (marks.map Mark.item) := by
  have hformat : DatePattern.format? "d\\Y%n".toList =
      some ("%dY%%%-m".toList, { day := true, month := true }) := by decide
  exact ⟨hformat, (format?_marks "d\\Y%n".toList).2 _ _ hformat⟩

end FormRules.Date
