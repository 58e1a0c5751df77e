import FormRules.Text.CaseFold
import FormRules.Text.Property

/-!
# Sets of characters

A set of characters is kept as the expression that defines it, and `CharSet.mem` decides
membership by reading that expression.

Embeds the character classes of the `regex` library.
-/

namespace FormRules.Pattern

open FormRules.Text

/-- An expression that denotes a set of characters. -/
inductive CharSet
  /-- No character. -/
  | nothing
  /-- The characters from the first to the last, both included. -/
  | range (first last : Char)
  /-- The characters with a property. -/
  | property (has : Char → Bool)
  | union (a b : CharSet)
  | inter (a b : CharSet)
  | compl (a : CharSet)
  /-- The characters of the set and all that differ from one of them only in case. -/
  | anyCase (a : CharSet)
  /-- The characters of the set and the ASCII letters that differ from one of them only in case. -/
  | anyAsciiCase (a : CharSet)

namespace CharSet

/-- Membership. -/
def mem : CharSet → Char → Bool
  | nothing, _ => false
  | range first last, c => first ≤ c && c ≤ last
  | property has, c => has c
  | union a b, c => a.mem c || b.mem c
  | inter a b, c => a.mem c && b.mem c
  | compl a, c => !a.mem c
  | anyCase a, c => a.mem c || (caseVariants c).any a.mem
  | anyAsciiCase a, c => a.mem c || (asciiCaseVariants c).any a.mem

def single (c : Char) : CharSet := .range c c

/-- All characters. -/
def any : CharSet := .compl .nothing

/-- The characters of either set but not of both. -/
def symmDiff (a b : CharSet) : CharSet := .union (.inter a (.compl b)) (.inter b (.compl a))

def ofList : List Char → CharSet
  | [] => .nothing
  | c :: rest => .union (single c) (ofList rest)

@[simp] theorem mem_nothing (c : Char) : nothing.mem c = false := rfl

@[simp] theorem mem_any (c : Char) : any.mem c = true := rfl

@[simp] theorem mem_union (a b : CharSet) (c : Char) : (union a b).mem c = (a.mem c || b.mem c) :=
  rfl

@[simp] theorem mem_inter (a b : CharSet) (c : Char) : (inter a b).mem c = (a.mem c && b.mem c) :=
  rfl

@[simp] theorem mem_compl (a : CharSet) (c : Char) : (compl a).mem c = !a.mem c := rfl

@[simp] theorem mem_range (first last c : Char) :
    (range first last).mem c = (decide (first ≤ c) && decide (c ≤ last)) := rfl

theorem mem_single (c d : Char) : (single c).mem d = true ↔ d = c := by
  simp only [single, mem_range, Bool.and_eq_true, decide_eq_true_eq]
  constructor
  · intro h
    exact Char.le_antisymm h.2 h.1
  · intro h
    subst h
    exact ⟨Char.le_refl d, Char.le_refl d⟩

theorem mem_ofList (s : List Char) (c : Char) : (ofList s).mem c = true ↔ c ∈ s := by
  induction s with
  | nil => simp [ofList]
  | cons d s ih =>
    simp only [ofList, mem_union, Bool.or_eq_true, mem_single, ih, List.mem_cons]

/-! ### ASCII -/

theorem mem_range_upper (c : Char) : (range 'A' 'Z').mem c = c.isUpper := by
  rw [mem_range, ← Bool.decide_and]
  rfl

theorem mem_range_lower (c : Char) : (range 'a' 'z').mem c = c.isLower := rfl

theorem mem_range_digit (c : Char) : (range '0' '9').mem c = c.isDigit := rfl

theorem isAlphanum_eq (c : Char) : c.isAlphanum = (c.isUpper || c.isLower || c.isDigit) := rfl

/-- Whether a set can be seen to hold ASCII characters only. -/
def isPlain : CharSet → Bool
  | nothing => true
  | range _ last => isAscii last
  | property _ => false
  | union a b => a.isPlain && b.isPlain
  | inter a b => a.isPlain || b.isPlain
  | compl _ => false
  | anyCase _ => false
  | anyAsciiCase a => a.isPlain

end CharSet

end FormRules.Pattern
