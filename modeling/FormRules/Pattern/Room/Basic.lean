/-!
# Room for patterns

A pattern is meant to run on an automaton that reads the bytes of a text, forward to find the end of
a match and backward to find its start.  Every state of it takes room, and so do the links of a
state that has several; patterns that need too much are refused.  `Room.take` takes room as long as
there is any.

Embeds the size limit of the `regex` library on compiled patterns, 10 * 2 ^ 20 bytes by default.
-/

namespace FormRules.Pattern

/-- The direction in which an automaton reads. -/
inductive Direction
  | forward
  | backward
  deriving DecidableEq, Repr

/-- The room taken so far. -/
structure Room where
  /-- The number of states. -/
  states : Nat
  /-- The bytes for the links of states that have several. -/
  links : Nat
  deriving DecidableEq, Repr

namespace Room

/-- No room taken. -/
def untouched : Room := ⟨0, 0⟩

def stateBytes : Nat := 32

/-- The bytes for each way on from a fork. -/
def forkBytes : Nat := 4

/-- The bytes for each range of bytes that a state tells apart. -/
def rangeBytes : Nat := 8

/-- The bytes taken. -/
def bytes (room : Room) : Nat := stateBytes * room.states + room.links

/-- The most bytes that may be taken. -/
def limit : Nat := 10 <<< 20

/-- Takes room for states and links, if there is as much. -/
def take (states links : Nat) (room : Room) : Option Room :=
  let more : Room := ⟨room.states + states, room.links + links⟩
  if more.bytes ≤ limit then some more else none

/-- Takes room several times over. -/
def times (step : Room → Option Room) : Nat → Room → Option Room
  | 0, room => some room
  | count + 1, room => (step room).bind (times step count)

theorem bytes_take {states links : Nat} {room more : Room}
    (h : take states links room = some more) :
    more.bytes = room.bytes + (stateBytes * states + links) ∧ more.bytes ≤ limit := by
  simp only [take] at h
  split at h
  · rename_i hle
    cases h
    refine ⟨?_, hle⟩
    simp only [bytes, Nat.mul_add]
    omega
  · exact absurd h (by simp)

end Room

end FormRules.Pattern
