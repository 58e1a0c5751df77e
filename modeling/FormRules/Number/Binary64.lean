/-!
# Floating-point numbers of 64 bits

A number is its sign and the code of its magnitude, the 63 bits below the sign bit.  Codes are in
the order of the magnitudes they stand for, and every finite magnitude is a whole number of units
of `2 ^ -1074`, so that rounding and comparison need natural numbers only.

The numbers are those that `parse_number` gives and that `Rules` has for bounds.
-/

namespace FormRules

/-- A floating-point number of 64 bits. -/
structure Binary64 where
  negative : Bool
  /-- The bits below the sign bit; beyond `infinityCode` they stand for no number. -/
  code : Nat
  deriving DecidableEq, Repr, Inhabited

namespace Binary64

def infinityCode : Nat := 0x7FF0000000000000

/-- The bit above the stored bits of a significand. -/
def leadingBit : Nat := 0x10000000000000

def signBit : Nat := 0x8000000000000000

/-- The number of units of `2 ^ -1074` in the magnitude that a code stands for. -/
def units (code : Nat) : Nat :=
  if code < leadingBit then code
  else (leadingBit + code % leadingBit) <<< (code / leadingBit - 1)

/-- The number of the 64 bits. -/
def toBits (x : Binary64) : Nat := (if x.negative then signBit else 0) + x.code

/-- The number with the given 64 bits. -/
def ofBits (bits : Nat) : Binary64 := ⟨bits / signBit % 2 == 1, bits % signBit⟩

theorem toBits_ofBits (bits : Nat) (h : bits < 2 * signBit) : (ofBits bits).toBits = bits := by
  simp only [ofBits, toBits, signBit, beq_iff_eq] at h ⊢
  split <;> omega

/-- Whether the bits stand for no number. -/
def isNaN (x : Binary64) : Bool := infinityCode < x.code

/-- Whether the number is finite. -/
def isFinite (x : Binary64) : Bool := x.code < infinityCode

/-! ### Rounding -/

/-- The whole number nearest to a quotient, the even one of two. -/
def roundDiv (num den : Nat) : Nat :=
  let q := num / den
  let r := num % den
  if 2 * r < den then q
  else if den < 2 * r then q + 1
  else if q % 2 = 0 then q else q + 1

theorem roundDiv_le (num den : Nat) : roundDiv num den ≤ num / den + 1 := by
  simp only [roundDiv]
  repeat' split
  all_goals omega

theorem le_roundDiv (num den : Nat) : num / den ≤ roundDiv num den := by
  simp only [roundDiv]
  repeat' split
  all_goals omega

/-- The code of the magnitude nearest to a quotient, the even one of two; from half a step beyond
the greatest finite magnitude on it is infinity. -/
def nearestCode (num den : Nat) : Nat :=
  let scaled := num <<< 1074
  let whole := scaled / den
  let shift := if whole < 2 * leadingBit then 0 else Nat.log2 whole - 52
  Nat.min (shift * leadingBit + roundDiv scaled (den <<< shift)) infinityCode

theorem nearestCode_le (num den : Nat) : nearestCode num den ≤ infinityCode := Nat.min_le_right _ _

/-- The number nearest to a natural number. -/
def ofNat (n : Nat) : Binary64 := ⟨false, nearestCode n 1⟩

/-! ### Order -/

/-- The place of a number in the order; both zeros have the same. -/
def rank (x : Binary64) : Int := if x.negative then -(x.code : Int) else (x.code : Int)

/-- At most: false if either side is no number. -/
def le (x y : Binary64) : Bool := !x.isNaN && !y.isNaN && x.rank ≤ y.rank

/-- Less: false if either side is no number. -/
def lt (x y : Binary64) : Bool := !x.isNaN && !y.isNaN && x.rank < y.rank

/-- Whether the number is zero, of either sign. -/
def isZero (x : Binary64) : Bool := x.code == 0

/-- Zero without a sign. -/
def zero : Binary64 := ⟨false, 0⟩

theorem le_refl {x : Binary64} (h : x.isNaN = false) : x.le x = true := by
  simp only [le, h, Bool.not_false, Bool.true_and, decide_eq_true_eq]
  exact Int.le_refl _

theorem le_trans {x y z : Binary64} (hxy : x.le y = true) (hyz : y.le z = true) :
    x.le z = true := by
  simp only [le, Bool.and_eq_true, decide_eq_true_eq] at hxy hyz ⊢
  exact ⟨⟨hxy.1.1, hyz.1.2⟩, Int.le_trans hxy.2 hyz.2⟩

/-! ### Arithmetic on magnitudes -/

/-- The code of the product of two finite magnitudes. -/
def mulCode (a b : Nat) : Nat := nearestCode (units a * units b) (1 <<< 2148)

/-- The code of the quotient of two finite magnitudes, the second of which is not zero. -/
def divCode (a b : Nat) : Nat := nearestCode (units a) (units b)

end Binary64

end FormRules
