import FormRules.Pattern.CharSet
import FormRules.Text.Landmark

/-!
# Sets of characters as ranges

`CharSet.ranges` writes a set as ranges of code points.  It asks for membership only where the set
may begin or end: at the landmarks of the properties and at the ends of the ranges that its
expression mentions.

Embeds the classes of the `regex` library in the form of sorted ranges, from which its automata are
built.
-/

namespace FormRules.Pattern

open FormRules.Text

/-- The first and the last of consecutive code points. -/
abbrev CodeRange := Nat × Nat

namespace CharSet

/-- The code points at which a range in the expression begins, and those behind its end. -/
def bounds : CharSet → List Nat
  | nothing => []
  | range first last => [first.toNat, last.toNat + 1]
  | property _ => []
  | union a b => a.bounds ++ b.bounds
  | inter a b => a.bounds ++ b.bounds
  | compl a => a.bounds
  | anyCase a => a.bounds
  | anyAsciiCase a => a.bounds

/-- Whether a code point is that of a member. -/
def hasCode (set : CharSet) (code : Nat) : Bool :=
  Nat.isValidChar code && set.mem (Char.ofNat code)

/-- Goes through code points in increasing order and collects the ranges of members; `open?` is
where the current one began. -/
def collect (set : CharSet) : (open? : Option Nat) → List Nat → List CodeRange
  | none, [] => []
  | some first, [] => [(first, 0x10FFFF)]
  | none, code :: rest =>
    if set.hasCode code then set.collect (some code) rest else set.collect none rest
  | some first, code :: rest =>
    if set.hasCode code then set.collect (some first) rest
    else (first, code - 1) :: set.collect none rest

/-- The places at which a set may begin or end.  A set of ASCII characters needs no landmarks. -/
def places (set : CharSet) : List Nat :=
  if set.isPlain then List.range 0x81 else List.merge set.bounds.mergeSort landmarks.get

/-- The set as ranges in increasing order. -/
def ranges (set : CharSet) : List CodeRange := set.collect none set.places

theorem collect_nil (set : CharSet) : set.collect none [] = [] := rfl

/-- Each range that is collected begins at a member. -/
theorem hasCode_of_mem_collect {set : CharSet} {codes : List Nat} {r : CodeRange}
    (h : r ∈ set.collect none codes) : set.hasCode r.1 = true := by
  have general : ∀ (codes : List Nat) (open? : Option Nat),
      (∀ first, open? = some first → set.hasCode first = true) →
      ∀ r ∈ set.collect open? codes, set.hasCode r.1 = true := by
    intro codes
    induction codes with
    | nil =>
      intro open? hopen r hr
      cases open? with
      | none => exact absurd hr (by simp [collect])
      | some first =>
        rw [collect, List.mem_singleton] at hr
        subst hr
        exact hopen first rfl
    | cons code rest ih =>
      intro open? hopen r hr
      cases open? with
      | none =>
        rw [collect] at hr
        split at hr
        · rename_i hcode
          refine ih (some code) ?_ r hr
          intro first hfirst
          rw [← Option.some.inj hfirst]
          exact hcode
        · exact ih none (fun _ hnone => nomatch hnone) r hr
      | some first =>
        rw [collect] at hr
        split at hr
        · exact ih (some first) hopen r hr
        · rcases List.mem_cons.1 hr with rfl | hr
          · exact hopen first rfl
          · exact ih none (fun _ hnone => nomatch hnone) r hr
  exact general codes none (fun _ hnone => nomatch hnone) r h

end CharSet

end FormRules.Pattern
