import FormRules.Pattern.Positions
import FormRules.Pattern.Program
import Std.Data.HashSet.Basic

/-!
# The first match and its groups

Of all matches the one wanted starts leftmost, and among those it follows the preferences of the
expression.  `search` explores the program depth first, preferred choices first, and enters no
instruction twice at the same position: what failed there once fails again, and going in a circle
gains nothing.

Embeds `captures` of the `regex` library: leftmost, and then by preference.
-/

namespace FormRules.Pattern

/-- A place from which the program is still to be explored. -/
structure Branch where
  /-- The number of the instruction. -/
  instruction : Nat
  /-- The position in the subject. -/
  position : Nat
  /-- The positions recorded on the way. -/
  slots : Array (Option Nat)

namespace Branch

/-- The branch that goes on at another instruction. -/
def jump (branch : Branch) (next : Nat) : Branch :=
  ⟨next, branch.position, branch.slots⟩

/-- The branches that an instruction leads to, the preferred one first. -/
def successors (subject : Array Char) (branch : Branch) : Instruction → List Branch
  | .step set next => match subject[branch.position]? with
    | some c => if set.mem c then [⟨next, branch.position + 1, branch.slots⟩] else []
    | none => []
  | .check look next =>
    let before := if branch.position = 0 then none else subject[branch.position - 1]?
    if look.holds before subject[branch.position]? then [branch.jump next] else []
  | .record slot next =>
    [⟨next, branch.position, branch.slots.setIfInBounds slot (some branch.position)⟩]
  | .fork first second => [branch.jump first, branch.jump second]
  | .jump next => [branch.jump next]
  | .accept => []

end Branch

/-- The instructions entered so far, each with the position at which it was entered. -/
abbrev Visited := Std.HashSet (Nat × Nat)

/-- Explores branches until one accepts.  What has been visited is given back for the next search on
the same subject. -/
def explore (program : Array Instruction) (subject : Array Char) : Nat → Visited → List Branch →
    Option (Array (Option Nat)) × Visited
  | 0, visited, _ => (none, visited)
  | _ + 1, visited, [] => (none, visited)
  | fuel + 1, visited, branch :: rest =>
    let mark := (branch.instruction, branch.position)
    if visited.contains mark then explore program subject fuel visited rest
    else
      let visited := visited.insert mark
      match program[branch.instruction]? with
      | none => explore program subject fuel visited rest
      | some .accept => (some branch.slots, visited)
      | some instruction =>
        explore program subject fuel visited (branch.successors subject instruction ++ rest)

/-- Searches from each position on, the leftmost first; `count` positions are left to try.  An
instruction has at most two successors and is entered once at a position, which bounds the number
of steps. -/
def searchFrom (program : Array Instruction) (subject : Array Char) (slots : Array (Option Nat)) :
    Nat → Nat → Visited → Option (Array (Option Nat))
  | 0, _, _ => none
  | count + 1, start, visited =>
    let fuel := 2 * (program.size * (subject.size + 1)) + 2
    match explore program subject fuel visited [⟨0, start, slots⟩] with
    | (some slots, _) => some slots
    | (none, visited) => searchFrom program subject slots count (start + 1) visited

/-- A stretch of a subject: where it starts and where it ends. -/
abbrev Span := Nat × Nat

/-- The stretches that the groups record in the preferred match, the whole match first. -/
def Regex.search (r : Regex) (subject : List Char) : Option (List (Option Span)) :=
  let program := Program.ofRegex r
  let text := subject.toArray
  let slots := Array.replicate (2 * r.groupCount) none
  (searchFrom program text slots (text.size + 1) 0 {}).map fun slots =>
    (List.range r.groupCount).map fun index =>
      match slots.getD (2 * index) none, slots.getD (2 * index + 1) none with
      | some first, some last => some (first, last)
      | _, _ => none

/-- The characters of a stretch. -/
def Span.of (span : Span) (subject : List Char) : List Char :=
  (subject.drop span.1).take (span.2 - span.1)

end FormRules.Pattern
