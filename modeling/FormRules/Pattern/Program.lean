import FormRules.Pattern.Regex

/-!
# Patterns as programs

`Program.ofRegex` lays a regular expression out as numbered instructions, each of which names the
instruction that follows it.  A fork names two, the preferred one first.

Embeds the programs that the `regex` library searches with.
-/

namespace FormRules.Pattern

inductive Instruction
  /-- Passes over a character of the set. -/
  | step (set : CharSet) (next : Nat)
  /-- Goes on where the condition holds. -/
  | check (look : Look) (next : Nat)
  /-- Records the position in a slot. -/
  | record (slot : Nat) (next : Nat)
  /-- Goes on at the first instruction, or else at the second. -/
  | fork (first second : Nat)
  /-- Goes on elsewhere. -/
  | jump (next : Nat)
  /-- The end of a match. -/
  | accept

namespace Program

/-- A fork between another round and going on, in the order that the preference asks for. -/
def choose (greedy : Bool) (round next : Nat) : Instruction :=
  if greedy then .fork round next else .fork next round

/-- The number of instructions for an expression. -/
def size : Regex → Nat
  | .empty => 1
  | .chars _ => 1
  | .look _ => 1
  | .group _ r => size r + 2
  | .scope r => size r
  | .seq a b => size a + size b
  | .alt a b => size a + size b + 1
  | .repeated r min none _ =>
    if min = 0 then if r.consumes then size r + 1 else size r + 2
    else min * size r + 1
  | .repeated r min (some max) _ =>
    if min = 0 && max = 0 then 1 else min * size r + (max - min) * (size r + 1)

/-- Lays out rounds one after the other, each `length` instructions long. -/
def copies (emit : Nat → Nat → List Instruction) (length : Nat) :
    Nat → Nat → Nat → List Instruction
  | 0, _, _ => []
  | 1, start, next => emit start next
  | count + 2, start, next =>
    emit start (start + length) ++ copies emit length (count + 1) (start + length) next

/-- Lays out rounds that may end before each of them. -/
def optionalCopies (emit : Nat → Nat → List Instruction) (length : Nat) (greedy : Bool) :
    Nat → Nat → Nat → List Instruction
  | 0, _, _ => []
  | 1, start, next => choose greedy (start + 1) next :: emit (start + 1) next
  | count + 2, start, next =>
    choose greedy (start + 1) next :: emit (start + 1) (start + length + 1) ++
      optionalCopies emit length greedy (count + 1) (start + length + 1) next

/-- The instructions of an expression from number `start` on; `next` is where it goes on.  A
repetition that must consume is one fork that its rounds come back to; where a round may be empty
it is an optional first round with a fork behind it, so that an empty round ends it. -/
def layout : Regex → Nat → Nat → List Instruction
  | .empty, _, next => [.jump next]
  | .chars set, _, next => [.step set next]
  | .look l, _, next => [.check l next]
  | .group index r, start, next =>
    .record (2 * index) (start + 1) :: layout r (start + 1) (start + 1 + size r) ++
      [.record (2 * index + 1) next]
  | .scope r, start, next => layout r start next
  | .seq a b, start, next =>
    layout a start (start + size a) ++ layout b (start + size a) next
  | .alt a b, start, next =>
    .fork (start + 1) (start + 1 + size a) :: layout a (start + 1) next ++
      layout b (start + 1 + size a) next
  | .repeated r min none greedy, start, next =>
    if min = 0 then
      if r.consumes then choose greedy (start + 1) next :: layout r (start + 1) start
      else
        choose greedy (start + 1) next :: layout r (start + 1) (start + 1 + size r) ++
          [choose greedy (start + 1) next]
    else
      let last := start + (min - 1) * size r
      copies (layout r) (size r) (min - 1) start last ++
        layout r last (last + size r) ++ [choose greedy last next]
  | .repeated r min (some max) greedy, start, next =>
    let last := start + min * size r
    if min = 0 && max = 0 then [.jump next]
    else copies (layout r) (size r) min start (if max ≤ min then next else last) ++
      optionalCopies (layout r) (size r) greedy (max - min) last next

/-- The program that looks for a match and records where it starts and ends. -/
def ofRegex (r : Regex) : Array Instruction :=
  List.toArray (Instruction.record 0 1 :: (layout r 1 (1 + size r) ++
    [Instruction.record 1 (2 + size r), Instruction.accept]))

/-! ### Lengths -/

theorem length_copies (emit : Nat → Nat → List Instruction) (length : Nat)
    (h : ∀ start next, (emit start next).length = length) (count start next : Nat) :
    (copies emit length count start next).length = count * length := by
  fun_induction copies emit length count start next with
  | case1 => simp only [List.length_nil, Nat.zero_mul]
  | case2 => simp only [h, Nat.one_mul]
  | case3 start next count ih =>
    rw [List.length_append, h, ih, Nat.succ_mul (start + 1), Nat.add_comm]

theorem length_optionalCopies (emit : Nat → Nat → List Instruction) (length : Nat) (greedy : Bool)
    (h : ∀ start next, (emit start next).length = length) (count start next : Nat) :
    (optionalCopies emit length greedy count start next).length = count * (length + 1) := by
  fun_induction optionalCopies emit length greedy count start next with
  | case1 => simp only [List.length_nil, Nat.zero_mul]
  | case2 => simp only [List.length_cons, h, Nat.one_mul]
  | case3 start next count ih =>
    rw [List.cons_append, List.length_cons, List.length_append, h, ih, Nat.succ_mul (start + 1)]
    omega

theorem length_layout (r : Regex) (start next : Nat) : (layout r start next).length = size r := by
  induction r generalizing start next with
  | empty => rfl
  | chars => rfl
  | look => rfl
  | group index r ih =>
    simp only [layout, size, List.length_cons, List.length_append, ih, List.length_nil]
  | scope r ih => simp only [layout, size, ih]
  | seq a b iha ihb => simp only [layout, size, List.length_append, iha, ihb]
  | alt a b iha ihb =>
    simp only [layout, size, List.length_cons, List.length_append, iha, ihb]
    omega
  | repeated r min max greedy ih =>
    cases max with
    | none =>
      simp only [layout, size]
      split
      · split
        · simp only [List.length_cons, ih]
        · simp only [List.length_cons, List.length_append, ih, List.length_nil]
      · rename_i h
        simp only [List.length_append, List.length_cons, List.length_nil, ih,
          length_copies (layout r) (size r) ih]
        have hm : min = (min - 1) + 1 := by omega
        rw [hm, Nat.add_sub_cancel, Nat.succ_mul]
    | some max =>
      simp only [layout, size]
      split
      · rfl
      · rw [List.length_append, length_copies (layout r) (size r) ih,
          length_optionalCopies (layout r) (size r) greedy ih]

end Program

end FormRules.Pattern
