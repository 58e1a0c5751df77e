import FormRules.Pattern.Regex

/-!
# Which positions a match can start from

Recognition works on sets of positions of one subject.  Read from its end, an expression carries
the set of positions where a match may end back to the set where it may start; alternatives join
sets and repetitions repeat the step until nothing new appears.  A set is a number whose bit `i`
stands for the place before character `i`.

Embeds `is_match` of the `regex` library.
-/

namespace FormRules.Pattern

/-! ### Expressions on one subject -/

/-- An expression with its sets of characters and its conditions replaced by the sets of positions
at which they hold in one subject. -/
inductive Track
  | empty
  /-- Passes from a position of the set to the next one. -/
  | step (positions : Nat)
  /-- Stays at a position of the set. -/
  | stay (positions : Nat)
  | seq (a b : Track)
  | alt (a b : Track)
  | repeated (t : Track) (min : Nat) (max : Option Nat)

namespace Track

/-- The positions at which a character of the subject satisfies a condition. -/
def positionsOf (p : Char → Bool) : List Char → Nat
  | [] => 0
  | c :: rest => (if p c then 1 else 0) + 2 * positionsOf p rest

/-- The positions at which a condition on the neighbouring characters holds. -/
def placesOf (holds : Option Char → Option Char → Bool) (before : Option Char) : List Char → Nat
  | [] => if holds before none then 1 else 0
  | c :: rest => (if holds before (some c) then 1 else 0) + 2 * placesOf holds (some c) rest

/-- An expression on a subject. -/
def ofRegex (subject : List Char) : Regex → Track
  | .empty => .empty
  | .chars set => .step (positionsOf set.mem subject)
  | .look l => .stay (placesOf (fun before after => l.holds before after) none subject)
  | .group _ r => ofRegex subject r
  | .scope r => ofRegex subject r
  | .seq a b => .seq (ofRegex subject a) (ofRegex subject b)
  | .alt a b => .alt (ofRegex subject a) (ofRegex subject b)
  | .repeated r min max _ => .repeated (ofRegex subject r) min max

/-- Applies `back` until nothing changes, at most `fuel` times. -/
def settle (back : Nat → Nat) : Nat → Nat → Nat
  | 0, ends => ends
  | fuel + 1, ends =>
    let more := back ends
    if more = ends then ends else settle back fuel more

/-- The positions from which a match can reach one of the positions in `ends`; `length` bounds the
number of positions. -/
def back (length : Nat) : Track → Nat → Nat
  | empty, ends => ends
  | step positions, ends => positions &&& (ends >>> 1)
  | stay positions, ends => positions &&& ends
  | seq a b, ends => back length a (back length b ends)
  | alt a b, ends => back length a ends ||| back length b ends
  | repeated t min max, ends =>
    let optionalRounds := match max with
      | none => length + 1
      | some n => Nat.min (n - min) (length + 1)
    settle (back length t) min
      (settle (fun starts => ends ||| back length t starts) optionalRounds ends)

end Track

namespace Regex

-- Powers of natural numbers are those of core, also where Mathlib brings its own.
attribute [local instance (high)] instPowNat

def allPositions (length : Nat) : Nat := 2 ^ (length + 1) - 1

/-- The positions from which a match can reach one of the positions in `ends`. -/
def startsFor (r : Regex) (subject : List Char) (ends : Nat) : Nat :=
  (Track.ofRegex subject r).back subject.length ends

def matchesWithin (r : Regex) (subject : List Char) : Bool :=
  r.startsFor subject (allPositions subject.length) != 0

def matchesWhole (r : Regex) (subject : List Char) : Bool :=
  (r.startsFor subject (2 ^ subject.length)).testBit 0

end Regex

end FormRules.Pattern
