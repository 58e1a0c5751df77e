/-!
# Blank characters

A character is blank when it has the property `White_Space`.  Values, rule texts and patterns are
trimmed of blank characters before they are looked at.

Embeds `trim` and `trim_start`, which the predicates, `parse_rules` and `split_delimited` begin
with.
-/

namespace FormRules.Text

/-- The characters with the property `White_Space`. -/
def isBlank (c : Char) : Bool :=
  let n := c.toNat
  (0x09 ≤ n && n ≤ 0x0D) || n == 0x20 || n == 0x85 || n == 0xA0 || n == 0x1680 ||
    (0x2000 ≤ n && n ≤ 0x200A) || n == 0x2028 || n == 0x2029 || n == 0x202F || n == 0x205F ||
    n == 0x3000

theorem isBlank_of_isWhitespace {c : Char} (h : c.isWhitespace = true) : isBlank c = true := by
  simp only [Char.isWhitespace, Bool.or_eq_true, decide_eq_true_eq] at h
  rcases h with ((rfl | rfl) | rfl) | rfl <;> decide

def trimStart (s : List Char) : List Char := s.dropWhile isBlank

/-- The text without blank characters at its end. -/
def trimEnd (s : List Char) : List Char := (trimStart s.reverse).reverse

/-- The text without blank characters at either end. -/
def trim (s : List Char) : List Char := trimEnd (trimStart s)

@[simp] theorem trimStart_nil : trimStart [] = [] := rfl

theorem trimStart_cons (c : Char) (s : List Char) :
    trimStart (c :: s) = if isBlank c then trimStart s else c :: s := by
  simp only [trimStart, List.dropWhile_cons]

theorem trimStart_idem (s : List Char) : trimStart (trimStart s) = trimStart s := by
  induction s with
  | nil => rfl
  | cons c s ih =>
    by_cases h : isBlank c = true
    · simp only [trimStart_cons, h, if_true, ih]
    · simp only [trimStart_cons, h, Bool.false_eq_true, if_false]

end FormRules.Text
