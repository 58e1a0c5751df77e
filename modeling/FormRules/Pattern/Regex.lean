import FormRules.Pattern.CharSet

/-!
# Regular expressions with groups and positions

`Regex` is what a pattern means once its flags have been applied: sets of characters, positions
that a match has to pass, groups that record what they matched, and repetitions that prefer more
or fewer rounds.  `Matches` says which stretches of a subject an expression matches, without
regard to preference.

Embeds what the `regex` library documents of its matches: which stretches there are.
-/

namespace FormRules.Pattern

open FormRules.Text

/-! ### Positions -/

/-- A condition on the place between two characters of a subject. -/
inductive Look
  | textStart
  | textEnd
  /-- After a line feed or at the start. -/
  | lineStart
  /-- Before a line feed or at the end. -/
  | lineEnd
  /-- After a line break, where a carriage return with a line feed is one break. -/
  | breakStart
  /-- Before a line break, where a carriage return with a line feed is one break. -/
  | breakEnd
  /-- Between a word character and another, by the given notion of word character. -/
  | boundary (ascii : Bool)
  | notBoundary (ascii : Bool)
  | wordStart (ascii : Bool)
  | wordEnd (ascii : Bool)
  /-- Not after a word character. -/
  | wordStartHalf (ascii : Bool)
  /-- Not before a word character. -/
  | wordEndHalf (ascii : Bool)
  deriving DecidableEq, Repr

namespace Look

/-- Whether there is a word character on one side of a place. -/
def isWord (ascii : Bool) : Option Char → Bool
  | none => false
  | some c => if ascii then isAsciiWordChar c else isWordChar c

def holds (before after : Option Char) : Look → Bool
  | textStart => before.isNone
  | textEnd => after.isNone
  | lineStart => before.isNone || before == some '\n'
  | lineEnd => after.isNone || after == some '\n'
  | breakStart => before.isNone || before == some '\n' ||
      (before == some '\r' && after != some '\n')
  | breakEnd => after.isNone || after == some '\r' ||
      (after == some '\n' && before != some '\r')
  | boundary ascii => isWord ascii before != isWord ascii after
  | notBoundary ascii => isWord ascii before == isWord ascii after
  | wordStart ascii => !isWord ascii before && isWord ascii after
  | wordEnd ascii => isWord ascii before && !isWord ascii after
  | wordStartHalf ascii => !isWord ascii before
  | wordEndHalf ascii => !isWord ascii after

end Look

/-! ### Expressions -/

/-- A regular expression. -/
inductive Regex
  /-- The empty text. -/
  | empty
  /-- One character of a set. -/
  | chars (set : CharSet)
  /-- The empty text where a condition holds. -/
  | look (l : Look)
  /-- What the inner expression matches, recorded under a number. -/
  | group (index : Nat) (r : Regex)
  /-- An expression in a group of its own that records nothing. -/
  | scope (r : Regex)
  | seq (a b : Regex)
  /-- The first expression, or else the second. -/
  | alt (a b : Regex)
  /-- From `min` to `max` rounds of an expression; `greedy` prefers more rounds. -/
  | repeated (r : Regex) (min : Nat) (max : Option Nat) (greedy : Bool)

namespace Regex

def char (c : Char) : Regex := .chars (.single c)

/-- A text, character by character. -/
def text : List Char → Regex
  | [] => .empty
  | [c] => char c
  | c :: rest => .seq (char c) (text rest)

/-- Any number of rounds. -/
def star (r : Regex) : Regex := .repeated r 0 none true

/-- At least one round. -/
def plus (r : Regex) : Regex := .repeated r 1 none true

/-- At most one round. -/
def optional (r : Regex) : Regex := .repeated r 0 (some 1) true

/-- Expressions one after the other. -/
def seqs : List Regex → Regex
  | [] => .empty
  | [r] => r
  | r :: rest => .seq r (seqs rest)

/-- The first of several expressions that matches. -/
def alts : List Regex → Regex
  | [] => .chars .nothing
  | [r] => r
  | r :: rest => .alt r (alts rest)

/-! ### Meaning -/

/-- `Matches r before text after`: the expression matches `text` where it stands between `before`
and `after`. -/
inductive Matches : Regex → List Char → List Char → List Char → Prop
  | empty (before after : List Char) : Matches .empty before [] after
  | chars (before after : List Char) (set : CharSet) (c : Char) (h : set.mem c = true) :
    Matches (.chars set) before [c] after
  | look (before after : List Char) (l : Look) (h : l.holds before.getLast? after.head? = true) :
    Matches (.look l) before [] after
  | group (before text after : List Char) (index : Nat) (r : Regex)
    (h : Matches r before text after) : Matches (.group index r) before text after
  | scope (before text after : List Char) (r : Regex) (h : Matches r before text after) :
    Matches (.scope r) before text after
  | seq (before first second after : List Char) (a b : Regex)
    (ha : Matches a before first (second ++ after))
    (hb : Matches b (before ++ first) second after) :
    Matches (.seq a b) before (first ++ second) after
  | altLeft (before text after : List Char) (a b : Regex) (h : Matches a before text after) :
    Matches (.alt a b) before text after
  | altRight (before text after : List Char) (a b : Regex) (h : Matches b before text after) :
    Matches (.alt a b) before text after
  | stop (before after : List Char) (r : Regex) (max : Option Nat) (greedy : Bool) :
    Matches (.repeated r 0 max greedy) before [] after
  | round (before first second after : List Char) (r : Regex) (min : Nat) (max : Option Nat)
    (greedy : Bool) (hmore : min ≠ 0 ∨ max ≠ some 0)
    (hr : Matches r before first (second ++ after))
    (hrest : Matches (.repeated r (min - 1) (max.map (· - 1)) greedy) (before ++ first) second
      after) :
    Matches (.repeated r min max greedy) before (first ++ second) after

def MatchesWhole (r : Regex) (subject : List Char) : Prop := Matches r [] subject []

/-! ### Lengths and groups -/

/-- Whether every match has at least one character. -/
def consumes : Regex → Bool
  | empty => false
  | chars _ => true
  | look _ => false
  | group _ r => r.consumes
  | scope r => r.consumes
  | seq a b => a.consumes || b.consumes
  | alt a b => a.consumes && b.consumes
  | repeated r min _ _ => min != 0 && r.consumes

/-- Whether every match is visibly empty. -/
def isVoid : Regex → Bool
  | empty => true
  | chars _ => false
  | look _ => true
  | group _ r => r.isVoid
  | scope r => r.isVoid
  | seq a b => a.isVoid && b.isVoid
  | alt a b => a.isVoid && b.isVoid
  | repeated r _ max _ => r.isVoid || max == some 0

/-- A repetition in its simplest form: more than one round of nothing is one round, no round is the
empty text, and exactly one round is the expression itself. -/
def rounds (r : Regex) (min : Nat) (max : Option Nat) (greedy : Bool) : Regex :=
  let min' := if r.isVoid then Nat.min min 1 else min
  let max' := if r.isVoid then some (match max with | none => 1 | some n => Nat.min n 1) else max
  if min' == 0 && max' == some 0 then .empty
  else if min' == 1 && max' == some 1 then r
  else .repeated r min' max' greedy

/-- One more than the greatest group number, and at least one for the whole match. -/
def groupCount : Regex → Nat
  | empty => 1
  | chars _ => 1
  | look _ => 1
  | group index r => Nat.max (index + 1) r.groupCount
  | scope r => r.groupCount
  | seq a b => Nat.max a.groupCount b.groupCount
  | alt a b => Nat.max a.groupCount b.groupCount
  | repeated r _ _ _ => r.groupCount

theorem groupCount_pos (r : Regex) : 0 < r.groupCount := by
  induction r with
  | empty => decide
  | chars => exact Nat.one_pos
  | look => exact Nat.one_pos
  | group index r ih => exact Nat.lt_of_lt_of_le ih (Nat.le_max_right _ _)
  | scope r ih => exact ih
  | seq a b iha _ => exact Nat.lt_of_lt_of_le iha (Nat.le_max_left _ _)
  | alt a b iha _ => exact Nat.lt_of_lt_of_le iha (Nat.le_max_left _ _)
  | repeated r _ _ _ ih => exact ih

end Regex

end FormRules.Pattern
