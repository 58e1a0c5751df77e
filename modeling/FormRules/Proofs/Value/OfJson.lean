import FormRules.Value.OfJson
import Mathlib.Data.List.Forall2

/-!
# The two ways from JSON to a value

Held content and the JSON value of a text have the same shape; they differ in the members of
objects only.  What `Value.read?` reads from a text is therefore what `Value.ofJson?` gives for the
JSON value of the text, as long as that consists of strings and arrays.
-/

namespace FormRules

/-! ### Kinds of JSON values -/

namespace Json

/-- Strings, and arrays of nothing but such values. -/
inductive IsPlain : Json → Prop
  | string (text : String) : IsPlain (.string text)
  | array (items : List Json) (h : ∀ item ∈ items, IsPlain item) : IsPlain (.array items)

/-- Objects, and arrays with such a value among their items. -/
inductive HasObject : Json → Prop
  | object (members : List (String × Json)) : HasObject (.object members)
  | array (items : List Json) (item : Json) (hmem : item ∈ items) (h : HasObject item) :
    HasObject (.array items)

theorem isPlain_array {items : List Json} :
    (array items).IsPlain ↔ ∀ item ∈ items, item.IsPlain := by
  constructor
  · intro h
    cases h with
    | array _ h => exact h
  · exact IsPlain.array items

theorem hasObject_array {items : List Json} :
    (array items).HasObject ↔ ∃ item ∈ items, item.HasObject := by
  constructor
  · intro h
    cases h with
    | array _ item hmem h => exact ⟨item, hmem, h⟩
  · intro h
    obtain ⟨item, hmem, h⟩ := h
    exact .array items item hmem h

end Json

/-- A value stands for a JSON value: a scalar for what has a text, and a sequence for an array, item
by item. -/
inductive Value.StandsFor : Value → Json → Prop
  | null : StandsFor (.scalar "") .null
  | bool (b : Bool) : StandsFor (.scalar (toString b)) (.bool b)
  | number (n : JsonNumber) : StandsFor (.scalar n.text) (.number n)
  | string (text : String) : StandsFor (.scalar text) (.string text)
  | array (values : List Value) (items : List Json) (h : List.Forall₂ StandsFor values items) :
    StandsFor (.sequence values) (.array items)

/-! ### Content and JSON values -/

namespace Content

mutual

/-- The JSON value of content: of the members of one name the last one counts. -/
def toJson : Content → Json
  | .null => .null
  | .bool b => .bool b
  | .number n => .number n
  | .string text => .string text
  | .array items => .array (toJsons items)
  | .object members => .object (NameMap.ofList (toJsonMembers members)).entries

def toJsons : List Content → List Json
  | [] => []
  | item :: items => toJson item :: toJsons items

def toJsonMembers : List (String × Content) → List (String × Json)
  | [] => []
  | (name, value) :: members => (name, toJson value) :: toJsonMembers members

end

end Content

namespace JsonSyntax

mutual

theorem value?_eq_map (depth : Nat) (tree : JsonSyntax) :
    value? depth tree = (content? depth tree).map Content.toJson := by
  cases tree with
  | null => rfl
  | bool b => rfl
  | number literal => cases h : literal.value? <;> simp [value?, content?, h, Content.toJson]
  | string units =>
    cases h : CodeUnits.toText? units <;> simp [value?, content?, h, Content.toJson]
  | array items =>
    cases depth with
    | zero => rfl
    | succ depth =>
      rw [value?, content?, values?_eq_map depth items]
      cases contents? depth items <;> rfl
  | object members =>
    cases depth with
    | zero => rfl
    | succ depth =>
      rw [value?, content?, memberValues?_eq_map depth members]
      cases memberContents? depth members <;> rfl

theorem values?_eq_map (depth : Nat) (items : List JsonSyntax) :
    values? depth items = (contents? depth items).map Content.toJsons := by
  cases items with
  | nil => rfl
  | cons item items =>
    rw [values?, contents?, value?_eq_map depth item, values?_eq_map depth items]
    cases content? depth item with
    | none => rfl
    | some item => cases contents? depth items <;> rfl

theorem memberValues?_eq_map (depth : Nat) (members : List (List Nat × JsonSyntax)) :
    memberValues? depth members = (memberContents? depth members).map Content.toJsonMembers := by
  cases members with
  | nil => rfl
  | cons member members =>
    obtain ⟨name, value⟩ := member
    rw [memberValues?, memberContents?, value?_eq_map depth value,
      memberValues?_eq_map depth members]
    cases CodeUnits.toText? name with
    | none => rfl
    | some name =>
      cases content? depth value with
      | none => rfl
      | some value => cases memberContents? depth members <;> rfl

end

end JsonSyntax

theorem Json.read?_eq_map (text : String) :
    read? text = (Content.read? text).map Content.toJson := by
  rw [read?, Content.read?]
  cases JsonSyntax.read? text.toList with
  | none => rfl
  | some tree => exact JsonSyntax.value?_eq_map maxNesting tree

namespace Value

/-! ### Strings and arrays -/

mutual

/-- Content gives a value exactly if it is made of strings and arrays. -/
theorem isSome_ofContent? (content : Content) :
    (ofContent? content).isSome = true ↔ content.toJson.IsPlain := by
  cases content with
  | string text => exact iff_of_true rfl (.string text)
  | array items =>
    rw [ofContent?, Option.isSome_map, Content.toJson, Json.isPlain_array]
    exact isSome_ofContents? items
  | _ => exact iff_of_false Bool.false_ne_true (fun h => nomatch h)

theorem isSome_ofContents? (contents : List Content) :
    (ofContents? contents).isSome = true ↔ ∀ item ∈ Content.toJsons contents, item.IsPlain := by
  cases contents with
  | nil => simp [ofContents?, Content.toJsons]
  | cons content contents =>
    have hfirst := isSome_ofContent? content
    have hrest := isSome_ofContents? contents
    rw [Content.toJsons, List.forall_mem_cons, ← hfirst, ← hrest, ofContents?]
    cases ofContent? content with
    | none => simp
    | some value => cases ofContents? contents <;> simp

end

mutual

theorem ofJson?_of_ofContent? {content : Content} {value : Value}
    (h : ofContent? content = some value) : ofJson? content.toJson = some value := by
  cases content with
  | string text => exact h
  | array items =>
    rw [ofContent?, Option.map_eq_some_iff] at h
    obtain ⟨values, hvalues, heq⟩ := h
    rw [Content.toJson, ofJson?, ofJsonItems?_of_ofContents? hvalues, ← heq]
    rfl
  | _ => exact nomatch h

theorem ofJsonItems?_of_ofContents? {contents : List Content} {values : List Value}
    (h : ofContents? contents = some values) :
    ofJsonItems? (Content.toJsons contents) = some values := by
  cases contents with
  | nil => exact h
  | cons content contents =>
    simp only [ofContents?, Option.bind_eq_bind, Option.bind_eq_some_iff] at h
    obtain ⟨value, hvalue, rest, hrest, heq⟩ := h
    rw [Content.toJsons, ofJsonItems?, ofJson?_of_ofContent? hvalue,
      ofJsonItems?_of_ofContents? hrest]
    exact heq

end

/-- What is read from a text is the value of its JSON value. -/
theorem read?_eq_some {text : String} {value : Value} :
    read? text = some value ↔
      ∃ json, Json.read? text = some json ∧ json.IsPlain ∧ ofJson? json = some value := by
  simp only [read?, Json.read?_eq_map, Option.bind_eq_some_iff, Option.map_eq_some_iff]
  constructor
  · intro h
    obtain ⟨content, hcontent, hvalue⟩ := h
    have hplain := (isSome_ofContent? content).1 (Option.isSome_of_eq_some hvalue)
    exact ⟨_, ⟨content, hcontent, rfl⟩, hplain, ofJson?_of_ofContent? hvalue⟩
  · intro h
    obtain ⟨json, ⟨content, hcontent, hjson⟩, hplain, hvalue⟩ := h
    subst hjson
    obtain ⟨read, hread⟩ := Option.isSome_iff_exists.1 ((isSome_ofContent? content).2 hplain)
    have hsame := ofJson?_of_ofContent? hread
    rw [hvalue] at hsame
    exact ⟨content, hcontent, hread.trans hsame.symm⟩

theorem isSome_read? {text : String} :
    (read? text).isSome = true ↔ ∃ json, Json.read? text = some json ∧ json.IsPlain := by
  rw [Option.isSome_iff_exists]
  constructor
  · intro h
    obtain ⟨value, hvalue⟩ := h
    obtain ⟨json, hjson, hplain, -⟩ := read?_eq_some.1 hvalue
    exact ⟨json, hjson, hplain⟩
  · intro h
    obtain ⟨json, hjson, hplain⟩ := h
    rw [Json.read?_eq_map, Option.map_eq_some_iff] at hjson
    obtain ⟨content, hcontent, hjson⟩ := hjson
    subst hjson
    rw [read?, hcontent]
    exact Option.isSome_iff_exists.1 ((isSome_ofContent? content).2 hplain)

/-! ### Objects -/

mutual

theorem ofJson?_eq_none (json : Json) : ofJson? json = none ↔ json.HasObject := by
  cases json with
  | object members => exact iff_of_true rfl (.object members)
  | array items =>
    rw [ofJson?, Option.map_eq_none_iff, Json.hasObject_array]
    exact ofJsonItems?_eq_none items
  | bool b => cases b <;> exact iff_of_false (fun h => nomatch h) (fun h => nomatch h)
  | _ => exact iff_of_false (fun h => nomatch h) (fun h => nomatch h)

theorem ofJsonItems?_eq_none (items : List Json) :
    ofJsonItems? items = none ↔ ∃ item ∈ items, item.HasObject := by
  cases items with
  | nil => simp [ofJsonItems?]
  | cons item items =>
    rw [List.exists_mem_cons_iff, ← ofJson?_eq_none item, ← ofJsonItems?_eq_none items, ofJsonItems?]
    cases ofJson? item with
    | none => simp
    | some value => cases ofJsonItems? items <;> simp

end

/-! ### Nesting, length and order -/

theorem standsFor_array {values : List Value} {items : List Json} :
    (sequence values).StandsFor (.array items) ↔ List.Forall₂ StandsFor values items := by
  constructor
  · intro h
    cases h with
    | array _ _ h => exact h
  · exact StandsFor.array values items

mutual

theorem ofJson?_eq_some (json : Json) (value : Value) :
    ofJson? json = some value ↔ value.StandsFor json := by
  cases json with
  | array items =>
    rw [ofJson?, Option.map_eq_some_iff]
    constructor
    · intro h
      obtain ⟨values, hvalues, heq⟩ := h
      rw [← heq, standsFor_array, ← ofJsonItems?_eq_some]
      exact hvalues
    · intro h
      cases h with
      | array values _ h => exact ⟨values, (ofJsonItems?_eq_some items values).2 h, rfl⟩
  | object members =>
    constructor
    · intro h
      exact nomatch h
    · intro h
      exact nomatch h
  | bool b =>
    constructor
    · intro h
      have hvalue : value = .scalar (toString b) := by
        cases b <;> exact (Option.some.inj h).symm
      rw [hvalue]
      exact .bool b
    · intro h
      cases h
      cases b <;> rfl
  | null =>
    constructor
    · intro h
      cases h
      exact .null
    · intro h
      cases h
      rfl
  | number n =>
    constructor
    · intro h
      cases h
      exact .number n
    · intro h
      cases h
      rfl
  | string text =>
    constructor
    · intro h
      cases h
      exact .string text
    · intro h
      cases h
      rfl

theorem ofJsonItems?_eq_some (items : List Json) (values : List Value) :
    ofJsonItems? items = some values ↔ List.Forall₂ StandsFor values items := by
  cases items with
  | nil => simp [ofJsonItems?, eq_comm]
  | cons item items =>
    rw [ofJsonItems?, List.forall₂_cons_right_iff]
    simp only [Option.bind_eq_bind, Option.bind_eq_some_iff]
    constructor
    · intro h
      obtain ⟨first, hfirst, rest, hrest, heq⟩ := h
      exact ⟨first, rest, (ofJson?_eq_some item first).1 hfirst,
        (ofJsonItems?_eq_some items rest).1 hrest, (Option.some.inj heq).symm⟩
    · intro h
      obtain ⟨first, rest, hfirst, hrest, heq⟩ := h
      exact ⟨first, (ofJson?_eq_some item first).2 hfirst, rest,
        (ofJsonItems?_eq_some items rest).2 hrest, congrArg some heq.symm⟩

end

/-- A text is read as a value exactly if its JSON value consists of strings and arrays, and then as
what that JSON value stands for.  Objects stand for nothing, and everything else keeps its nesting,
its lengths and its order. -/
theorem read?_agrees_ofJson? :
    (∀ text, (read? text).isSome = true ↔ ∃ json, Json.read? text = some json ∧ json.IsPlain) ∧
      (∀ text value, read? text = some value ↔
        ∃ json, Json.read? text = some json ∧ json.IsPlain ∧ ofJson? json = some value) ∧
      ∀ json, (ofJson? json = none ↔ json.HasObject) ∧
        ∀ value, ofJson? json = some value ↔ value.StandsFor json := by
  refine ⟨fun text => isSome_read?, fun text value => read?_eq_some, fun json => ?_⟩
  exact ⟨ofJson?_eq_none json, ofJson?_eq_some json⟩

end Value

end FormRules
