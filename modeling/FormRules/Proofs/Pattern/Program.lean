import FormRules.Pattern.Search
import FormRules.Proofs.Pattern.Spans

/-!
# Programs do what their expressions say

The instructions of an expression lead from their start to what comes after them exactly along the
parts of the subject that the expression spans.  `live_layout` says that such a part is a way
through, and `passes_layout` that there is no other way: a run that accepts leaves the
instructions again after spanning a part, and with the slots of the whole match as they were.
-/

namespace FormRules.Pattern

open Regex

namespace Program

variable {program : Array Instruction} {s : List Char} {r : Regex} {i j k : Nat}
variable {start next : Nat}

/-! ### Code in its place -/

/-- Some instructions stand in a program from a number on. -/
def Placed (program : Array Instruction) (start : Nat) (code : List Instruction) : Prop :=
  ∀ n instruction, code[n]? = some instruction → program[start + n]? = some instruction

theorem Placed.left {a b : List Instruction} (h : Placed program start (a ++ b)) :
    Placed program start a := by
  intro n instruction hn
  obtain ⟨hlt, _⟩ := List.getElem?_eq_some_iff.1 hn
  exact h n instruction (by rw [List.getElem?_append_left hlt, hn])

theorem Placed.right {a b : List Instruction} (h : Placed program start (a ++ b)) (length : Nat)
    (hlength : a.length = length) : Placed program (start + length) b := by
  intro n instruction hn
  subst hlength
  have hb := h (a.length + n) instruction (by rw [List.getElem?_append_right (by omega)]; simpa)
  rwa [← Nat.add_assoc] at hb

theorem Placed.head {a : Instruction} {b : List Instruction} (h : Placed program start (a :: b)) :
    program[start]? = some a := h 0 a rfl

theorem Placed.tail {a : Instruction} {b : List Instruction} (h : Placed program start (a :: b)) :
    Placed program (start + 1) b := h.right (a := [a]) 1 rfl

/-! ### Steps -/

/-- A place from which a run can accept, whatever it has recorded. -/
inductive Live (program : Array Instruction) (s : List Char) : Nat → Nat → Prop
  | accept (n i : Nat) (h : program[n]? = some .accept) : Live program s n i
  | step (n i : Nat) (slots : Array (Option Nat)) (instruction : Instruction) (b : Branch)
    (h : program[n]? = some instruction)
    (hb : b ∈ Branch.successors s.toArray ⟨n, i, slots⟩ instruction)
    (hrest : Live program s b.instruction b.position) : Live program s n i

theorem live_step {set : CharSet} (h : program[start]? = some (.step set next))
    (hspans : (Regex.chars set).Spans s i j) (hlive : Live program s next j) :
    Live program s start i := by
  obtain ⟨rfl, c, hc, hset⟩ := spans_chars.1 hspans
  refine .step _ _ #[] _ ⟨next, i + 1, #[]⟩ h ?_ hlive
  simp only [Branch.successors, List.getElem?_toArray, hc, hset, if_true, List.mem_singleton]

theorem live_check {l : Look} (h : program[start]? = some (.check l next))
    (hspans : (Regex.look l).Spans s i j) (hlive : Live program s next j) :
    Live program s start i := by
  obtain ⟨rfl, _, hl⟩ := spans_look.1 hspans
  rw [charBefore] at hl
  refine .step _ _ #[] _ ⟨next, j, #[]⟩ h ?_ hlive
  simp only [Branch.successors, List.getElem?_toArray, hl, if_true, Branch.jump,
    List.mem_singleton]

theorem live_record {slot : Nat} (h : program[start]? = some (.record slot next))
    (hlive : Live program s next i) : Live program s start i :=
  .step _ _ #[] _ ⟨next, i, _⟩ h (List.mem_singleton_self _) hlive

theorem live_jump (h : program[start]? = some (.jump next)) (hlive : Live program s next i) :
    Live program s start i :=
  .step _ _ #[] _ ⟨next, i, #[]⟩ h (List.mem_singleton_self _) hlive

theorem live_fork {first second : Nat} (h : program[start]? = some (.fork first second))
    (hlive : Live program s first i ∨ Live program s second i) : Live program s start i := by
  rcases hlive with hlive | hlive
  · exact .step _ _ #[] _ ⟨first, i, #[]⟩ h (by simp [Branch.successors, Branch.jump]) hlive
  · exact .step _ _ #[] _ ⟨second, i, #[]⟩ h (by simp [Branch.successors, Branch.jump]) hlive

theorem live_choose {greedy : Bool} {round : Nat}
    (h : program[start]? = some (choose greedy round next))
    (hlive : Live program s round i ∨ Live program s next i) : Live program s start i := by
  cases greedy with
  | true => exact live_fork h hlive
  | false => exact live_fork h hlive.symm

/-! ### Every span is a way through -/

/-- What `r` spans leads through the code from `start` to `next`. -/
def Leads (program : Array Instruction) (s : List Char) (r : Regex) (start next : Nat) : Prop :=
  ∀ i j, r.Spans s i j → Live program s next j → Live program s start i

theorem live_loop {greedy : Bool} {round test : Nat}
    (htest : program[test]? = some (choose greedy round next))
    (hround : Leads program s r round test) {count : Nat} (h : Rounds r s count i j)
    (hlive : Live program s next j) : Live program s test i := by
  induction h with
  | none i hi => exact live_choose htest (Or.inr hlive)
  | more count i k j hr _ ih => exact live_choose htest (Or.inl (hround i k hr (ih hlive)))

variable {emit : Nat → Nat → List Instruction} {length : Nat}

theorem live_copies (hlength : ∀ start next, (emit start next).length = length)
    (hemit : ∀ start next, Placed program start (emit start next) → Leads program s r start next)
    (count start next : Nat) (hzero : count = 0 → start = next)
    (h : Placed program start (copies emit length count start next))
    (hrounds : Rounds r s count i j) (hlive : Live program s next j) :
    Live program s start i := by
  -- the last copy leads to `next` itself, the others to the copy after them
  fun_induction copies emit length count start next generalizing i with
  | case1 start next =>
    cases hrounds
    rw [hzero rfl]
    exact hlive
  | case2 start next =>
    cases hrounds with
    | more _ _ k _ hr hrest =>
      cases hrest
      exact hemit _ _ h i j hr hlive
  | case3 start next count ih =>
    cases hrounds with
    | more _ _ k _ hr hrest =>
      have hlater := ih (by omega) (h.right _ (hlength _ _)) hrest hlive
      exact hemit _ _ h.left i k hr hlater

theorem live_optionalCopies {greedy : Bool}
    (hlength : ∀ start next, (emit start next).length = length)
    (hemit : ∀ start next, Placed program start (emit start next) → Leads program s r start next)
    (count start next : Nat) (hpos : count ≠ 0)
    (h : Placed program start (optionalCopies emit length greedy count start next))
    {rounds : Nat} (hle : rounds ≤ count) (hrounds : Rounds r s rounds i j)
    (hlive : Live program s next j) : Live program s start i := by
  fun_induction optionalCopies emit length greedy count start next generalizing i rounds with
  | case1 => exact absurd rfl hpos
  | case2 start next =>
    cases hrounds with
    | none => exact live_choose h.head (Or.inr hlive)
    | more _ _ k _ hr hrest =>
      cases hrest with
      | none => exact live_choose h.head (Or.inl (hemit _ _ h.tail i j hr hlive))
      | more => omega
  | case3 start next count ih =>
    cases hrounds with
    | none => exact live_choose h.left.head (Or.inr hlive)
    | more rounds _ k _ hr hrest =>
      have hbody := h.left.tail
      have hafter := h.right (length + 1) (by rw [List.length_cons, hlength])
      rw [← Nat.add_assoc] at hafter
      have hlater := ih (by omega) hafter (by omega) hrest hlive
      exact live_choose h.left.head (Or.inl (hemit _ _ hbody i k hr hlater))

theorem live_repeated {min : Nat} {max : Option Nat} {greedy : Bool}
    (hr : ∀ start next, Placed program start (layout r start next) → Leads program s r start next)
    (h : Placed program start (layout (.repeated r min max greedy) start next)) :
    Leads program s (.repeated r min max greedy) start next := by
  intro i j hspans hlive
  obtain ⟨count, ⟨hmin, hmax⟩, hrounds⟩ := spans_repeated_iff_rounds.1 hspans
  have hlength := length_layout r
  cases max with
  | none =>
    simp only [layout] at h
    split at h
    · split at h
      · exact live_loop h.head (hr _ _ h.tail) hrounds hlive
      · -- the first fork leads past the rounds or into one, after which the second one loops
        have hbody := h.left.tail
        have htest := (h.right (size r + 1) (by rw [List.length_cons, hlength])).head
        rw [← Nat.add_assoc, Nat.add_right_comm] at htest
        cases hrounds with
        | none => exact live_choose h.left.head (Or.inr hlive)
        | more _ _ k _ hfirst hrest =>
          have hloop := live_loop htest (hr _ _ hbody) hrest hlive
          exact live_choose h.left.head (Or.inl (hr _ _ hbody i k hfirst hloop))
    · rename_i hpos
      have hcopies := length_copies (layout r) (size r) hlength (min - 1) start
        (start + (min - 1) * size r)
      have hlast := h.left.right _ hcopies
      have htest := (h.right _ (by rw [List.length_append, hcopies, hlength])).head
      rw [← Nat.add_assoc] at htest
      -- all but one of the required rounds, then the body of the loop, then its repetitions
      have hcount : count = (min - 1) + (1 + (count - min)) := by omega
      rw [hcount] at hrounds
      obtain ⟨k, hleast, hmore⟩ := hrounds.split
      obtain ⟨l, hone, hrest⟩ := hmore.split
      have hloop := live_loop htest (hr _ _ hlast) hrest hlive
      refine live_copies hlength hr _ _ _ (fun h0 => ?_) h.left.left hleast ?_
      · rw [h0, Nat.zero_mul, Nat.add_zero]
      · cases hone with
        | more _ _ _ _ hspan hnone =>
          cases hnone
          exact hr _ _ hlast k l hspan hloop
  | some most =>
    simp only [layout] at h
    have hmost := hmax most rfl
    split at h
    · rename_i hzero
      simp only [Bool.and_eq_true, decide_eq_true_eq] at hzero
      have hcount : count = 0 := by omega
      subst hcount
      cases hrounds
      exact live_jump h.head hlive
    · rename_i hzero
      simp only [Bool.and_eq_true, decide_eq_true_eq, not_and] at hzero
      by_cases hle : most ≤ min
      · rw [if_pos hle] at h
        have hcount : count = min := by omega
        subst hcount
        exact live_copies hlength hr _ _ _ (fun h0 => absurd h0 (by omega)) h.left hrounds hlive
      · rw [if_neg hle] at h
        have hoptional := h.right _ (length_copies (layout r) (size r) hlength _ _ _)
        rw [← Nat.add_sub_cancel' hmin] at hrounds
        obtain ⟨k, hleast, hmore⟩ := hrounds.split
        have hlast := live_optionalCopies hlength hr _ _ _ (by omega) hoptional (by omega) hmore
          hlive
        refine live_copies hlength hr _ _ _ (fun h0 => ?_) h.left hleast hlast
        rw [h0, Nat.zero_mul, Nat.add_zero]

/-- What an expression spans leads through its code. -/
theorem live_layout (r : Regex) (start next : Nat)
    (h : Placed program start (layout r start next)) :
    Leads program s r start next := by
  induction r generalizing start next with
  | empty =>
    intro i j hspans hlive
    obtain ⟨rfl, _⟩ := spans_empty.1 hspans
    exact live_jump h.head hlive
  | chars set => exact fun i j => live_step h.head
  | look l => exact fun i j => live_check h.head
  | group index r ih =>
    intro i j hspans hlive
    have hbody := h.left.tail
    have hclose := (h.right (size r + 1) (by rw [List.length_cons, length_layout])).head
    rw [← Nat.add_assoc, Nat.add_right_comm] at hclose
    exact live_record h.left.head
      (ih _ _ hbody i j (spans_group.1 hspans) (live_record hclose hlive))
  | scope r ih => exact fun i j hspans => ih _ _ h i j (spans_scope.1 hspans)
  | seq a b iha ihb =>
    intro i j hspans hlive
    obtain ⟨k, ha, hb⟩ := spans_seq.1 hspans
    exact iha _ _ h.left i k ha (ihb _ _ (h.right _ (length_layout _ _ _)) k j hb hlive)
  | alt a b iha ihb =>
    intro i j hspans hlive
    have hsecond := h.right (size a + 1) (by rw [List.length_cons, length_layout])
    rw [← Nat.add_assoc, Nat.add_right_comm] at hsecond
    refine live_fork h.left.head ?_
    rcases spans_alt.1 hspans with ha | hb
    · exact Or.inl (iha _ _ h.left.tail i j ha hlive)
    · exact Or.inr (ihb _ _ hsecond i j hb hlive)
  | repeated r min max greedy ih => exact live_repeated (fun start next => ih start next) h

/-! ### Every way through is a span -/

/-- A run from a branch that accepts after a number of steps with some slots. -/
inductive Accepts (program : Array Instruction) (s : List Char) :
    Nat → Branch → Array (Option Nat) → Prop
  | accept (b : Branch) (h : program[b.instruction]? = some .accept) : Accepts program s 0 b b.slots
  | step (n : Nat) (b c : Branch) (slots : Array (Option Nat)) (instruction : Instruction)
    (h : program[b.instruction]? = some instruction)
    (hc : c ∈ b.successors s.toArray instruction) (hrest : Accepts program s n c slots) :
    Accepts program s (n + 1) b slots

theorem Accepts.onward {n : Nat} {b : Branch} {slots : Array (Option Nat)}
    {instruction : Instruction}
    (hrun : Accepts program s n b slots) (h : program[b.instruction]? = some instruction)
    (hne : instruction ≠ .accept) :
    ∃ m c, m < n ∧ c ∈ b.successors s.toArray instruction ∧ Accepts program s m c slots := by
  cases hrun with
  | accept _ haccept =>
    rw [h] at haccept
    exact absurd (Option.some.inj haccept) hne
  | step m _ c _ other hother hc hrest =>
    rw [h] at hother
    rw [← Option.some.inj hother] at hc
    exact ⟨m, c, Nat.lt_succ_self m, hc, hrest⟩

/-- Two branches agree on the slots of the whole match. -/
def SameEnds (b c : Branch) : Prop :=
  c.slots.size = b.slots.size ∧ c.slots[0]? = b.slots[0]? ∧ c.slots[1]? = b.slots[1]?

theorem SameEnds.refl (b : Branch) : SameEnds b b := ⟨rfl, rfl, rfl⟩

theorem SameEnds.trans {a b c : Branch} (h : SameEnds a b) (h' : SameEnds b c) : SameEnds a c :=
  ⟨h'.1.trans h.1, h'.2.1.trans h.2.1, h'.2.2.trans h.2.2⟩

/-- A run that accepts passes from `start` to `next` with positions in a relation. -/
def Passes (program : Array Instruction) (s : List Char) (R : Nat → Nat → Prop)
    (start next : Nat) : Prop :=
  ∀ n b slots, b.instruction = start → b.position ≤ s.length → Accepts program s n b slots →
    ∃ m c, m ≤ n ∧ Accepts program s m c slots ∧ c.instruction = next ∧
      c.position ≤ s.length ∧ R b.position c.position ∧ SameEnds b c

theorem Passes.comp {R R' : Nat → Nat → Prop} {mid : Nat} (h : Passes program s R start mid)
    (h' : Passes program s R' mid next) :
    Passes program s (fun i j => ∃ k, R i k ∧ R' k j) start next := by
  intro n b slots hb hpos hrun
  obtain ⟨m, c, hm, hc, hinstr, hcpos, hR, hsame⟩ := h n b slots hb hpos hrun
  obtain ⟨l, d, hl, hd, hdinstr, hdpos, hR', hsame'⟩ := h' m c slots hinstr hcpos hc
  exact ⟨l, d, Nat.le_trans hl hm, hd, hdinstr, hdpos, ⟨_, hR, hR'⟩, hsame.trans hsame'⟩

theorem Passes.imp {R R' : Nat → Nat → Prop} (h : Passes program s R start next)
    (himp : ∀ i j, R i j → R' i j) : Passes program s R' start next := by
  intro n b slots hb hpos hrun
  obtain ⟨m, c, hm, hc, hinstr, hcpos, hR, hsame⟩ := h n b slots hb hpos hrun
  exact ⟨m, c, hm, hc, hinstr, hcpos, himp _ _ hR, hsame⟩

theorem passes_step {set : CharSet} (h : program[start]? = some (.step set next)) :
    Passes program s ((Regex.chars set).Spans s) start next := by
  intro n b slots hb hpos hrun
  subst hb
  obtain ⟨m, c, hm, hc, hrest⟩ := hrun.onward h (by simp)
  simp only [Branch.successors, List.getElem?_toArray] at hc
  split at hc
  · rename_i d hd
    split at hc
    · rename_i hset
      rw [List.mem_singleton] at hc
      subst hc
      obtain ⟨hlt, _⟩ := List.getElem?_eq_some_iff.1 hd
      exact ⟨m, _, Nat.le_of_lt hm, hrest, rfl, hlt, spans_chars.2 ⟨rfl, d, hd, hset⟩, rfl, rfl,
        rfl⟩
    · exact absurd hc List.not_mem_nil
  · exact absurd hc List.not_mem_nil

theorem passes_check {l : Look} (h : program[start]? = some (.check l next)) :
    Passes program s ((Regex.look l).Spans s) start next := by
  intro n b slots hb hpos hrun
  subst hb
  obtain ⟨m, c, hm, hc, hrest⟩ := hrun.onward h (by simp)
  simp only [Branch.successors, List.getElem?_toArray] at hc
  by_cases hl : l.holds (charBefore s b.position) s[b.position]? = true
  · rw [if_pos (by rwa [charBefore] at hl), List.mem_singleton] at hc
    subst hc
    exact ⟨m, _, Nat.le_of_lt hm, hrest, rfl, hpos, spans_look.2 ⟨rfl, hpos, hl⟩, rfl, rfl, rfl⟩
  · rw [if_neg (by rwa [charBefore] at hl)] at hc
    exact absurd hc List.not_mem_nil

/-- The slots of a group stand behind those of the whole match. -/
theorem passes_record {slot : Nat} (hslot : 2 ≤ slot)
    (h : program[start]? = some (.record slot next)) :
    Passes program s (fun i j => j = i) start next := by
  intro n b slots hb hpos hrun
  subst hb
  obtain ⟨m, c, hm, hc, hrest⟩ := hrun.onward h (by simp)
  simp only [Branch.successors, List.mem_singleton] at hc
  subst hc
  refine ⟨m, _, Nat.le_of_lt hm, hrest, rfl, hpos, rfl, Array.size_setIfInBounds, ?_, ?_⟩
  · exact Array.getElem?_setIfInBounds_ne (by omega)
  · exact Array.getElem?_setIfInBounds_ne (by omega)

theorem passes_jump (h : program[start]? = some (.jump next)) :
    Passes program s (fun i j => j = i) start next := by
  intro n b slots hb hpos hrun
  subst hb
  obtain ⟨m, c, hm, hc, hrest⟩ := hrun.onward h (by simp)
  simp only [Branch.successors, Branch.jump, List.mem_singleton] at hc
  subst hc
  exact ⟨m, _, Nat.le_of_lt hm, hrest, rfl, hpos, rfl, rfl, rfl, rfl⟩

/-- From a fork a run goes on at one of its two instructions. -/
theorem Accepts.fork {first second n : Nat} {b : Branch} {slots : Array (Option Nat)}
    (hrun : Accepts program s n b slots)
    (h : program[b.instruction]? = some (.fork first second)) :
    ∃ m, m < n ∧ (Accepts program s m (b.jump first) slots ∨
      Accepts program s m (b.jump second) slots) := by
  obtain ⟨m, c, hm, hc, hrest⟩ := hrun.onward h (by simp)
  simp only [Branch.successors, List.mem_cons, List.not_mem_nil, or_false] at hc
  rcases hc with rfl | rfl
  · exact ⟨m, hm, Or.inl hrest⟩
  · exact ⟨m, hm, Or.inr hrest⟩

theorem Accepts.choose {greedy : Bool} {round n : Nat} {b : Branch} {slots : Array (Option Nat)}
    (hrun : Accepts program s n b slots)
    (h : program[b.instruction]? = some (Program.choose greedy round next)) :
    ∃ m, m < n ∧ (Accepts program s m (b.jump round) slots ∨
      Accepts program s m (b.jump next) slots) := by
  cases greedy with
  | true => exact hrun.fork h
  | false =>
    obtain ⟨m, hm, hrest⟩ := hrun.fork h
    exact ⟨m, hm, hrest.symm⟩

/-- From the fork of a loop a run leaves after some rounds; each of them makes the run shorter. -/
theorem passes_loop {greedy : Bool} {round test : Nat}
    (htest : program[test]? = some (choose greedy round next))
    (hround : Passes program s (r.Spans s) round test) :
    Passes program s (fun i j => ∃ count, Rounds r s count i j) test next := by
  -- a round may match nothing, so only the steps of the run decrease
  intro n
  induction n using Nat.strongRecOn with
  | ind n ih =>
    intro b slots hb hpos hrun
    subst hb
    obtain ⟨m, hm, hrest | hrest⟩ := hrun.choose htest
    · obtain ⟨l, c, hl, hc, hinstr, hcpos, hspan, hsame⟩ :=
        hround m (b.jump round) slots rfl hpos hrest
      obtain ⟨l', d, hl', hd, hdinstr, hdpos, ⟨count, hrounds⟩, hsame'⟩ :=
        ih l (by omega) c slots hinstr hcpos hc
      exact ⟨l', d, by omega, hd, hdinstr, hdpos, ⟨count + 1, .more _ _ _ _ hspan hrounds⟩,
        hsame.trans hsame'⟩
    · exact ⟨m, _, Nat.le_of_lt hm, hrest, rfl, hpos, ⟨0, .none _ hpos⟩, rfl, rfl, rfl⟩

theorem passes_copies (hlength : ∀ start next, (emit start next).length = length)
    (hemit : ∀ start next, Placed program start (emit start next) →
      Passes program s (r.Spans s) start next)
    (count start next : Nat) (hzero : count = 0 → start = next)
    (h : Placed program start (copies emit length count start next)) :
    Passes program s (Rounds r s count) start next := by
  fun_induction copies emit length count start next with
  | case1 start next =>
    intro n b slots hb hpos hrun
    exact ⟨n, b, Nat.le_refl n, hrun, hb.trans (hzero rfl), hpos, .none _ hpos, SameEnds.refl b⟩
  | case2 start next =>
    refine (hemit _ _ h).imp fun i j hspan => ?_
    exact .more _ _ _ _ hspan (.none j hspan.le.2)
  | case3 start next count ih =>
    refine ((hemit _ _ h.left).comp (ih (by omega) (h.right _ (hlength _ _)))).imp ?_
    rintro i j ⟨k, hspan, hrounds⟩
    exact .more _ _ _ _ hspan hrounds

theorem passes_optionalCopies {greedy : Bool}
    (hlength : ∀ start next, (emit start next).length = length)
    (hemit : ∀ start next, Placed program start (emit start next) →
      Passes program s (r.Spans s) start next)
    (count start next : Nat) (hpos : count ≠ 0)
    (h : Placed program start (optionalCopies emit length greedy count start next)) :
    Passes program s (fun i j => ∃ rounds, rounds ≤ count ∧ Rounds r s rounds i j) start next := by
  fun_induction optionalCopies emit length greedy count start next with
  | case1 => exact absurd rfl hpos
  | case2 start next =>
    intro n b slots hb hbpos hrun
    subst hb
    obtain ⟨m, hm, hrest | hrest⟩ := hrun.choose h.head
    · obtain ⟨l, c, hl, hc, hinstr, hcpos, hspan, hsame⟩ :=
        hemit _ _ h.tail m (b.jump _) slots rfl hbpos hrest
      exact ⟨l, c, by omega, hc, hinstr, hcpos,
        ⟨1, Nat.le_refl 1, .more _ _ _ _ hspan (.none _ hcpos)⟩, hsame⟩
    · exact ⟨m, _, Nat.le_of_lt hm, hrest, rfl, hbpos, ⟨0, Nat.zero_le _, .none _ hbpos⟩, rfl, rfl,
        rfl⟩
  | case3 start next count ih =>
    intro n b slots hb hbpos hrun
    subst hb
    have hafter := h.right (length + 1) (by rw [List.length_cons, hlength])
    rw [← Nat.add_assoc] at hafter
    obtain ⟨m, hm, hrest | hrest⟩ := hrun.choose h.left.head
    · obtain ⟨l, c, hl, hc, hinstr, hcpos, hspan, hsame⟩ :=
        hemit _ _ h.left.tail m (b.jump _) slots rfl hbpos hrest
      obtain ⟨l', d, hl', hd, hdinstr, hdpos, ⟨rounds, hle, hrounds⟩, hsame'⟩ :=
        ih (by omega) hafter l c slots hinstr hcpos hc
      exact ⟨l', d, by omega, hd, hdinstr, hdpos,
        ⟨rounds + 1, by omega, .more _ _ _ _ hspan hrounds⟩, hsame.trans hsame'⟩
    · exact ⟨m, _, Nat.le_of_lt hm, hrest, rfl, hbpos, ⟨0, Nat.zero_le _, .none _ hbpos⟩, rfl, rfl,
        rfl⟩

theorem passes_repeated {min : Nat} {max : Option Nat} {greedy : Bool}
    (hr : ∀ start next, Placed program start (layout r start next) →
      Passes program s (r.Spans s) start next)
    (h : Placed program start (layout (.repeated r min max greedy) start next)) :
    Passes program s ((Regex.repeated r min max greedy).Spans s) start next := by
  have hlength := length_layout r
  cases max with
  | none =>
    have hunbounded : ∀ {count i j}, min ≤ count → Rounds r s count i j →
        (Regex.repeated r min none greedy).Spans s i j := fun hle hrounds =>
      spans_repeated_iff_rounds.2 ⟨_, ⟨hle, fun _ h => nomatch h⟩, hrounds⟩
    simp only [layout] at h
    split at h
    · rename_i hmin
      split at h
      · refine (passes_loop h.head (hr _ _ h.tail)).imp ?_
        rintro i j ⟨count, hrounds⟩
        exact hunbounded (by omega) hrounds
      · -- either the first fork leads past the rounds, or a round is followed by a loop
        have hbody := h.left.tail
        have htest := (h.right (size r + 1) (by rw [List.length_cons, hlength])).head
        rw [← Nat.add_assoc, Nat.add_right_comm] at htest
        have hrounds := (hr _ _ hbody).comp (passes_loop htest (hr _ _ hbody))
        intro n b slots hb hpos hrun
        subst hb
        obtain ⟨m, hm, hrest | hrest⟩ := hrun.choose h.left.head
        · obtain ⟨l, c, hl, hc, hinstr, hcpos, ⟨k, hspan, count, hmore⟩, hsame⟩ :=
            hrounds m (b.jump _) slots rfl hpos hrest
          exact ⟨l, c, by omega, hc, hinstr, hcpos,
            hunbounded (by omega) (.more _ _ _ _ hspan hmore), hsame⟩
        · exact ⟨m, _, Nat.le_of_lt hm, hrest, rfl, hpos,
            hunbounded (by omega) (.none _ hpos), rfl, rfl, rfl⟩
    · rename_i hmin
      have hcopies := length_copies (layout r) (size r) hlength (min - 1) start
        (start + (min - 1) * size r)
      have hlast := h.left.right _ hcopies
      have htest := (h.right _ (by rw [List.length_append, hcopies, hlength])).head
      rw [← Nat.add_assoc] at htest
      have hzero : min - 1 = 0 → start = start + (min - 1) * size r := fun h0 => by
        rw [h0, Nat.zero_mul, Nat.add_zero]
      have hleast := passes_copies hlength hr _ _ _ hzero h.left.left
      refine (hleast.comp ((hr _ _ hlast).comp (passes_loop htest (hr _ _ hlast)))).imp ?_
      rintro i j ⟨k, hrounds, l, hspan, count, hmore⟩
      exact hunbounded (by omega) (hrounds.append (.more _ _ _ _ hspan hmore))
  | some most =>
    simp only [layout] at h
    split at h
    · rename_i hzero
      simp only [Bool.and_eq_true, decide_eq_true_eq] at hzero
      intro n b slots hb hpos hrun
      obtain ⟨m, c, hm, hc, hinstr, hcpos, hstay, hsame⟩ :=
        passes_jump h.head n b slots hb hpos hrun
      refine ⟨m, c, hm, hc, hinstr, hcpos, ?_, hsame⟩
      exact spans_repeated.2 (Or.inl ⟨hzero.1, hstay, hpos⟩)
    · rename_i hzero
      simp only [Bool.and_eq_true, decide_eq_true_eq, not_and] at hzero
      by_cases hle : most ≤ min
      · rw [if_pos hle] at h
        have hleast := passes_copies hlength hr _ _ _ (fun h0 => absurd h0 (by omega)) h.left
        refine hleast.imp fun i j hrounds => spans_repeated_iff_rounds.2 ⟨min, ?_, hrounds⟩
        exact ⟨Nat.le_refl min, fun _ _ => Or.inl (Nat.le_refl min)⟩
      · rw [if_neg hle] at h
        have hoptional := h.right _ (length_copies (layout r) (size r) hlength _ _ _)
        have hrest := passes_optionalCopies hlength hr _ _ _ (by omega) hoptional
        have hleast := passes_copies hlength hr min start (start + min * size r)
          (fun h0 => by rw [h0, Nat.zero_mul, Nat.add_zero]) h.left
        refine (hleast.comp hrest).imp ?_
        rintro i j ⟨k, hrounds, count, hcount, hmore⟩
        refine spans_repeated_iff_rounds.2 ⟨min + count, ⟨by omega, ?_⟩, hrounds.append hmore⟩
        rintro n ⟨⟩
        exact Or.inr (by omega)

end Program

/-- No group has the number of the whole match. -/
def Regex.Numbered : Regex → Prop
  | .empty => True
  | .chars _ => True
  | .look _ => True
  | .group index r => index ≠ 0 ∧ r.Numbered
  | .scope r => r.Numbered
  | .seq a b => a.Numbered ∧ b.Numbered
  | .alt a b => a.Numbered ∧ b.Numbered
  | .repeated r _ _ _ => r.Numbered

namespace Program

variable {program : Array Instruction} {s : List Char}

/-- A run that accepts leaves the code of an expression after spanning what the expression
spans. -/
theorem passes_layout (r : Regex) (hnumbered : r.Numbered) (start next : Nat)
    (h : Placed program start (layout r start next)) :
    Passes program s (r.Spans s) start next := by
  induction r generalizing start next with
  | empty =>
    intro n b slots hb hpos hrun
    obtain ⟨m, c, hm, hc, hinstr, hcpos, hstay, hsame⟩ :=
      passes_jump h.head n b slots hb hpos hrun
    exact ⟨m, c, hm, hc, hinstr, hcpos, spans_empty.2 ⟨hstay, hpos⟩, hsame⟩
  | chars set => exact passes_step h.head
  | look l => exact passes_check h.head
  | group index r ih =>
    obtain ⟨hindex, hnumbered⟩ := hnumbered
    have hclose := (h.right (size r + 1) (by rw [List.length_cons, length_layout])).head
    rw [← Nat.add_assoc, Nat.add_right_comm] at hclose
    have hbody := (ih hnumbered _ _ h.left.tail).comp (passes_record (by omega) hclose)
    refine ((passes_record (by omega) h.left.head).comp hbody).imp ?_
    rintro i j ⟨_, rfl, k, hspan, rfl⟩
    exact spans_group.2 hspan
  | scope r ih => exact (ih hnumbered _ _ h).imp fun i j => spans_scope.2
  | seq a b iha ihb =>
    have ha := iha hnumbered.1 _ _ h.left
    have hb := ihb hnumbered.2 _ _ (h.right _ (length_layout _ _ _))
    exact (ha.comp hb).imp fun i j => spans_seq.2
  | alt a b iha ihb =>
    have hsecond := h.right (size a + 1) (by rw [List.length_cons, length_layout])
    rw [← Nat.add_assoc, Nat.add_right_comm] at hsecond
    intro n branch slots hbranch hpos hrun
    subst hbranch
    obtain ⟨m, hm, hrest | hrest⟩ := hrun.fork h.left.head
    · obtain ⟨l, c, hl, hc, hinstr, hcpos, hspan, hsame⟩ :=
        iha hnumbered.1 _ _ h.left.tail m (branch.jump _) slots rfl hpos hrest
      exact ⟨l, c, by omega, hc, hinstr, hcpos, spans_alt.2 (Or.inl hspan), hsame⟩
    · obtain ⟨l, c, hl, hc, hinstr, hcpos, hspan, hsame⟩ :=
        ihb hnumbered.2 _ _ hsecond m (branch.jump _) slots rfl hpos hrest
      exact ⟨l, c, by omega, hc, hinstr, hcpos, spans_alt.2 (Or.inr hspan), hsame⟩
  | repeated r min max greedy ih =>
    exact passes_repeated (fun start next => ih hnumbered start next) h

end Program

end FormRules.Pattern
