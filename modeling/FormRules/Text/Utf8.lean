/-!
# UTF-8 forms of ranges

A character has a UTF-8 form of one to four bytes.  `Utf8.sequences` divides a range of code points
into parts in each of which the forms are all the byte strings with every byte in a range of its
own, so that a range of characters can be recognized byte by byte.

Embeds the UTF-8 sequences of ranges from which the `regex` library compiles its classes.
-/

namespace FormRules.Text.Utf8

/-- The first and the last of consecutive bytes. -/
abbrev ByteRange := UInt8 × UInt8

/-- The stretches of code points with forms of one length; surrogates have none. -/
def stretches : List (Nat × Nat) :=
  [(0, 0x7F), (0x80, 0x7FF), (0x800, 0xD7FF), (0xE000, 0xFFFF), (0x10000, 0x10FFFF)]

/-- Divides a range into whole blocks of the given sizes, the smallest first, and what is left over
at its ends. -/
def blocks : List Nat → Nat → Nat → List (Nat × Nat)
  | [], first, last => [(first, last)]
  | size :: sizes, first, last =>
    if first / size = last / size then [(first, last)]
    else
      let start := (first + size - 1) / size * size
      let stop := (last + 1) / size * size
      (if first < start then [(first, start - 1)] else []) ++
        (if start < stop then blocks sizes start (stop - 1) else []) ++
        (if stop ≤ last then [(stop, last)] else [])

/-- The sizes of the blocks whose forms differ in one, two or three continuation bytes.  Forms of
one byte have none. -/
def blockSizes (first : Nat) : List Nat := if first < 0x80 then [] else [0x40, 0x1000, 0x40000]

/-- The byte ranges of a part, from the forms of its first and its last code point. -/
def form (part : Nat × Nat) : List ByteRange :=
  (String.utf8EncodeChar (Char.ofNat part.1)).zip (String.utf8EncodeChar (Char.ofNat part.2))

/-- The byte strings that are the forms of a range of code points, in increasing order. -/
def sequences (first last : Nat) : List (List ByteRange) :=
  stretches.flatMap fun (low, high) =>
    let first := Nat.max first low
    let last := Nat.min last high
    if first ≤ last then (blocks (blockSizes first) first last).map form else []

theorem blocks_nil (first last : Nat) : blocks [] first last = [(first, last)] := rfl

/-- A range within one block stays whole. -/
theorem blocks_eq_singleton {size : Nat} (sizes : List Nat) {first last : Nat}
    (h : first / size = last / size) : blocks (size :: sizes) first last = [(first, last)] := by
  simp only [blocks, h, if_true]

end FormRules.Text.Utf8
