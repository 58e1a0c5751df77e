import FormRules.Pattern.Extent
import FormRules.Pattern.Room.Basic
import FormRules.Text.Utf8
import Std.Data.HashMap.Basic

/-!
# Room for sets of characters

A set of ASCII characters is one state.  Any other set is an automaton over the bytes of the UTF-8
forms, in which equal states are shared as far as they are remembered: each state is remembered
under a number made from its links, and only the latest under each number.

Embeds how the `regex` library compiles a class to bytes, with the caches of equal states.
-/

namespace FormRules.Pattern.SetRoom

open FormRules.Text

/-! ### States remembered -/

/-- States remembered, each with what it is told by. -/
abbrev Memory (κ : Type) := Std.HashMap Nat (κ × Nat)

/-- The number with which mixing begins. -/
def seed : UInt64 := 14695981039346656037

/-- Mixes one more number in. -/
def mix (sum : UInt64) (n : Nat) : UInt64 := (sum ^^^ n.toUInt64) * 1099511628211

/-- The state remembered under a number, if it is told by the given key. -/
def remembered? {κ : Type} [DecidableEq κ] (memory : Memory κ) (number : Nat) (key : κ) :
    Option Nat :=
  match memory[number]? with
  | some (other, state) => if other = key then some state else none
  | none => none

/-! ### Forward -/

/-- A range of bytes with the state to which it leads. -/
abbrev Link := Utf8.ByteRange × Nat

/-- The room taken, and the states remembered by their links. -/
abbrev Forward := Room × Memory (List Link)

/-- The number under which a state with some links is remembered. -/
def linksNumber (links : List Link) : Nat :=
  (links.foldl (fun sum link => mix (mix (mix sum link.1.1.toNat) link.1.2.toNat) link.2) seed %
    10000).toNat

/-- A state with some links: one that is remembered, or else a new one. -/
def stateFor (links : List Link) (before : Forward) : Option (Nat × Forward) :=
  let (room, memory) := before
  let number := linksNumber links
  match remembered? memory number links with
  | some state => some (state, before)
  | none => (room.take 1 (Room.rangeBytes * links.length)).map fun more =>
    (room.states, more, memory.insert number (links, room.states))

/-- The state from which some byte strings of length at most `depth` are read, each of which leads
to `target`.  They are in increasing order, so that those with the same beginning stand
together. -/
def stateOf (target : Nat) : (depth : Nat) → List (List Utf8.ByteRange) → Forward →
    Option (Nat × Forward)
  | 0, _, before => some (target, before)
  | depth + 1, strings, before =>
    if strings.all List.isEmpty then some (target, before)
    else
      let groups := strings.splitBy fun a b => a.head? == b.head?
      let step (done : List Link × Forward) (group : List (List Utf8.ByteRange)) :
          Option (List Link × Forward) :=
        match group with
        | (range :: _) :: _ =>
          (stateOf target depth (group.map List.tail) done.2).map fun found =>
            (done.1 ++ [(range, found.1)], found.2)
        | _ => some done
      (groups.foldlM step ([], before)).bind fun done => stateFor done.1 done.2

/-! ### Backward -/

/-- The room taken, and the states remembered by the one they lead to and the range of bytes. -/
abbrev Backward := Room × Memory (Nat × Utf8.ByteRange)

/-- The number under which a state with one link is remembered. -/
def linkNumber (link : Nat × Utf8.ByteRange) : Nat :=
  (mix (mix (mix seed link.1) link.2.1.toNat) link.2.2.toNat % 1000).toNat

/-- The state from which a byte range leads to a state: one that is remembered, or a new one. -/
def stateBefore (next : Nat) (range : Utf8.ByteRange) (before : Backward) :
    Option (Nat × Backward) :=
  let (room, memory) := before
  let number := linkNumber (next, range)
  match remembered? memory number (next, range) with
  | some state => some (state, before)
  | none => (room.take 1 0).map fun more =>
    (room.states, more, memory.insert number ((next, range), room.states))

/-- Takes room for reading a byte string from its end, where it leads to `target`. -/
def takeString (target : Nat) (before : Backward) (string : List Utf8.ByteRange) :
    Option Backward :=
  let step := fun (done : Nat × Backward) range => stateBefore done.1 range done.2
  (string.foldlM step (target, before)).bind fun (_, room, memory) =>
    (room.take 0 Room.forkBytes).map fun more => (more, memory)

/-! ### Both -/

/-- Takes room for a set.  Backward there is a fork with a way on for each byte string. -/
def take (direction : Direction) (ranges : List CodeRange) (room : Room) : Option Room :=
  if ranges.all (·.2 < 0x80) then room.take 2 (Room.rangeBytes * ranges.length)
  else
    let strings := ranges.flatMap fun (first, last) => Utf8.sequences first last
    match direction with
    | .forward => (room.take 1 0).bind fun more =>
      (stateOf room.states 4 strings (more, {})).map fun (_, after, _) => after
    | .backward => (room.take 2 0).bind fun more =>
      (strings.foldlM (takeString (room.states + 1)) (more, {})).map (·.1)

end FormRules.Pattern.SetRoom
