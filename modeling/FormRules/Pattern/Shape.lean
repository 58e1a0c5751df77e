import FormRules.Pattern.Extent
import FormRules.Pattern.Regex

/-!
# Shapes

The room that a pattern takes is measured on its shape.  A shape has no empty parts in a sequence
and no sequence in a sequence; neighbouring characters are one literal; alternatives that are single
characters or sets are one set; and what all alternatives begin with stands before them.

Embeds the simplifications that the `regex` library makes before it builds its automata.
-/

namespace FormRules.Pattern

/-- An expression in its simplest form, sets written as ranges.  Sequences and alternatives are
nested to the right. -/
inductive Shape
  | empty
  /-- Characters one after the other, at least one. -/
  | literal (text : List Char)
  /-- One character from ranges that hold none or more than one. -/
  | set (ranges : List CodeRange)
  | look (l : Look)
  | group (index : Nat) (s : Shape)
  | repeated (s : Shape) (min : Nat) (max : Option Nat) (greedy : Bool)
  | seq (a b : Shape)
  | alt (a b : Shape)
  deriving DecidableEq

namespace Shape

/-! ### Sets -/

/-- Puts a range before ranges that begin no earlier and joins it with those it touches. -/
def joinRange (r : CodeRange) : List CodeRange → List CodeRange
  | [] => [r]
  | s :: rest => if s.1 ≤ r.2 + 1 then joinRange (r.1, Nat.max r.2 s.2) rest else r :: s :: rest

/-- Ranges in increasing order that do not touch. -/
def tidyRanges (ranges : List CodeRange) : List CodeRange :=
  (ranges.mergeSort fun r s => r.1 ≤ s.1).foldr joinRange []

/-- One character from some ranges. -/
def ofRanges (ranges : List CodeRange) : Shape :=
  match tidyRanges ranges with
  | [(first, last)] => if first = last then .literal [Char.ofNat first] else .set [(first, last)]
  | tidy => .set tidy

def singleRange? : Shape → Option CodeRange
  | literal [c] => some (c.toNat, c.toNat)
  | _ => none

def setRanges? : Shape → Option (List CodeRange)
  | set ranges => some ranges
  | _ => none

/-! ### Sequences -/

/-- Puts a part that is no sequence before a shape. -/
def cons : Shape → Shape → Shape
  | empty, s => s
  | s, empty => s
  | literal u, literal v => .literal (u ++ v)
  | literal u, seq (literal v) s => .seq (.literal (u ++ v)) s
  | a, b => .seq a b

/-- One shape after the other. -/
def append : Shape → Shape → Shape
  | seq a b, s => cons a (append b s)
  | a, s => cons a s

/-- The parts of a sequence; any other shape is its only part. -/
def parts : Shape → List Shape
  | seq a b => a :: parts b
  | s => [s]

/-- Parts one after the other. -/
def ofParts (parts : List Shape) : Shape := parts.foldr append .empty

theorem cons_empty (s : Shape) : cons .empty s = s := by
  cases s <;> rfl

theorem append_empty_left (s : Shape) : append .empty s = s := cons_empty s

theorem parts_ne_nil (s : Shape) : s.parts ≠ [] := by
  cases s <;> exact List.cons_ne_nil _ _

/-! ### Alternatives -/

/-- The alternatives of a shape; any shape without is its only one. -/
def branches : Shape → List Shape
  | alt a b => a :: branches b
  | s => [s]

/-- Alternatives as they are. -/
def ofBranches : List Shape → Shape
  | [] => .set []
  | [s] => s
  | s :: rest => .alt s (ofBranches rest)

/-- The number of parts, alternatives and inner shapes. -/
def size : Shape → Nat
  | group _ s => s.size + 1
  | repeated s _ _ _ => s.size + 1
  | seq a b => a.size + b.size + 1
  | alt a b => a.size + b.size + 1
  | _ => 1

def commonStart : List Shape → List Shape → List Shape
  | a :: as, b :: bs => if a = b then a :: commonStart as bs else []
  | _, _ => []

/-- The parts of a sequence of at least two. -/
def sequence? : Shape → Option (List Shape)
  | seq a b => some (a :: parts b)
  | _ => none

/-- The parts with which all of several sequences begin; none if some shape is no sequence. -/
def sharedStart (shapes : List Shape) : List Shape :=
  match shapes.mapM sequence? with
  | some (first :: others) => others.foldl commonStart first
  | _ => []

/-- Alternatives in their simplest form.  Each round takes at least one part off every alternative,
so that their size bounds the number of rounds. -/
def alternatives : (rounds : Nat) → List Shape → Shape
  | 0, shapes => ofBranches shapes
  | rounds + 1, shapes =>
    match shapes.flatMap branches with
    | [s] => s
    | shapes => match shapes.mapM singleRange?, shapes.mapM setRanges? with
      | some ranges, _ => ofRanges ranges
      | none, some sets => ofRanges sets.flatten
      | none, none => match sharedStart shapes with
        | [] => ofBranches shapes
        | start =>
          let rests := shapes.map fun s => ofParts (s.parts.drop start.length)
          append (ofParts start) (alternatives rounds rests)

/-- The first of several shapes that matches. -/
def oneOf (shapes : List Shape) : Shape :=
  match shapes with
  | [s] => s
  | shapes => alternatives ((shapes.map size).foldr (· + ·) 0) shapes

/-! ### The shape of an expression -/

/-- The shapes of the alternatives of an expression. -/
def branchesOf : Regex → List Shape
  | .empty => [.empty]
  | .chars cs => [ofRanges cs.ranges]
  | .look l => [.look l]
  | .group index r => [.group index (oneOf (branchesOf r))]
  | .scope r => [oneOf (branchesOf r)]
  | .seq a b => [append (oneOf (branchesOf a)) (oneOf (branchesOf b))]
  | .alt a b => oneOf (branchesOf a) :: branchesOf b
  | .repeated r min max greedy => [.repeated (oneOf (branchesOf r)) min max greedy]

/-- The shape of an expression. -/
def ofRegex (r : Regex) : Shape := oneOf (branchesOf r)

/-! ### Lengths and ends -/

/-- The least number of characters that a match takes.  What has a part that never matches has
none. -/
def minLength? : Shape → Option Nat
  | empty => some 0
  | literal text => some text.length
  | set ranges => if ranges.isEmpty then none else some 1
  | look _ => some 0
  | group _ s => s.minLength?
  | repeated s min _ _ => s.minLength?.map (min * ·)
  | seq a b => match a.minLength?, b.minLength? with
    | some m, some n => some (m + n)
    | _, _ => none
  | alt a b => match a.minLength?, b.minLength? with
    | some m, some n => some (Nat.min m n)
    | _, _ => none

/-- Whether every match is visibly empty. -/
def isVoid : Shape → Bool
  | empty => true
  | look _ => true
  | group _ s => s.isVoid
  | repeated s _ max _ => s.isVoid || max == some 0
  | seq a b => a.isVoid && b.isVoid
  | alt a b => a.isVoid && b.isVoid
  | _ => false

/-- Whether every match visibly has to stand at a place of the given kind, before anything else if
`first`, and after it otherwise. -/
def isBoundTo (l : Look) (first : Bool) : Shape → Bool
  | look k => k == l
  | group _ s => s.isBoundTo l first
  | repeated s min _ _ => min != 0 && s.isBoundTo l first
  | seq a b =>
    if first then a.isBoundTo l first || (a.isVoid && b.isBoundTo l first)
    else b.isBoundTo l first || (b.isVoid && a.isBoundTo l first)
  | alt a b => a.isBoundTo l first && b.isBoundTo l first
  | _ => false

end Shape

end FormRules.Pattern
