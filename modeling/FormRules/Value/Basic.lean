import FormRules.Number.Rendering

/-!
# Field values

A value is a text or a sequence of values.

Embeds `Value` with `as_scalar` (`text?`), `as_sequence` (`items?`), `is_array_empty`
(`lacksItems`), its display and its conversions from numbers; specification, section 3.
-/

namespace FormRules

/-- A field value. -/
inductive Value where
  | scalar (text : String)
  | sequence (items : List Value)
  deriving Repr

namespace Value

instance : Inhabited Value := ⟨.scalar ""⟩

/-! ### Equality -/

mutual

/-- Whether two values are the same. -/
def beq : Value → Value → Bool
  | .scalar s, .scalar t => s == t
  | .sequence xs, .sequence ys => beqItems xs ys
  | .scalar _, .sequence _ => false
  | .sequence _, .scalar _ => false

/-- Whether two lists of values are the same. -/
def beqItems : List Value → List Value → Bool
  | [], [] => true
  | x :: xs, y :: ys => beq x y && beqItems xs ys
  | [], _ :: _ => false
  | _ :: _, [] => false

end

mutual

theorem eq_of_beq : (x y : Value) → beq x y = true → x = y
  | .scalar s, .scalar t, h => by
    rw [beq, beq_iff_eq] at h
    rw [h]
  | .sequence xs, .sequence ys, h => by
    rw [beq] at h
    rw [eq_of_beqItems xs ys h]
  | .scalar _, .sequence _, h => by simp [beq] at h
  | .sequence _, .scalar _, h => by simp [beq] at h

theorem eq_of_beqItems : (xs ys : List Value) → beqItems xs ys = true → xs = ys
  | [], [], _ => rfl
  | x :: xs, y :: ys, h => by
    rw [beqItems, Bool.and_eq_true] at h
    rw [eq_of_beq x y h.1, eq_of_beqItems xs ys h.2]
  | [], _ :: _, h => by simp [beqItems] at h
  | _ :: _, [], h => by simp [beqItems] at h

end

mutual

theorem beq_refl : (x : Value) → beq x x = true
  | .scalar s => by rw [beq, beq_iff_eq]
  | .sequence xs => by rw [beq]; exact beqItems_refl xs

theorem beqItems_refl : (xs : List Value) → beqItems xs xs = true
  | [] => by rw [beqItems]
  | x :: xs => by rw [beqItems, beq_refl x, beqItems_refl xs]; rfl

end

theorem beq_iff {x y : Value} : beq x y = true ↔ x = y :=
  ⟨eq_of_beq x y, fun h => h ▸ beq_refl x⟩

instance : DecidableEq Value := fun _ _ => decidable_of_iff _ beq_iff

/-! ### Views -/

def text? : Value → Option String
  | .scalar text => some text
  | .sequence _ => none

/-- The items of a sequence. -/
def items? : Value → Option (List Value)
  | .scalar _ => none
  | .sequence items => some items

def isSequence (value : Value) : Bool := value.items?.isSome

/-- Whether the value is the empty text or a sequence without items. -/
def isEmpty : Value → Bool
  | .scalar text => text.isEmpty
  | .sequence items => items.isEmpty

/-- Whether the value is no sequence with items; a scalar is none. -/
def lacksItems (value : Value) : Bool :=
  match value.items? with
  | some items => items.isEmpty
  | none => true

mutual

/-- The value as one text: sequences stand in brackets with commas between the items. -/
def display : Value → String
  | .scalar text => text
  | .sequence items => "[" ++ displayItems items ++ "]"

/-- Items with commas between them. -/
def displayItems : List Value → String
  | [] => ""
  | [item] => item.display
  | item :: next :: items => item.display ++ ", " ++ displayItems (next :: items)

end

/-! ### Values of numbers -/

/-- A whole number in decimal digits. -/
def ofInt (n : Int) : Value := .scalar (toString n)

/-- A floating-point number without an exponent. -/
def ofBinary64 (x : Binary64) : Value := .scalar x.plainText

end Value

end FormRules
