import FormRules.Proofs.Pattern.Positions
import FormRules.Proofs.Pattern.Program
import Std.Data.HashSet.Lemmas

/-!
# The search finds a match where there is one

The depth-first search is sound because what it holds in its stack stays within the branches of the
runs from its start.  It is complete because every mark it has left is closed: nothing accepts
there, and all that the mark leads to has been visited or is pending.  When nothing is pending any
more, no run from a visited mark accepts.
-/

namespace FormRules.Pattern

open Regex Program

variable {program : Array Instruction} {s : List Char}

namespace Branch

/-- What a search remembers of a branch. -/
def mark (b : Branch) : Nat × Nat := (b.instruction, b.position)

theorem map_mark_successors {b c : Branch} (h : b.mark = c.mark) (instruction : Instruction) :
    (b.successors s.toArray instruction).map mark =
      (c.successors s.toArray instruction).map mark := by
  obtain ⟨n, i, slots⟩ := b
  obtain ⟨n', i', slots'⟩ := c
  obtain ⟨rfl, rfl⟩ := Prod.mk.inj h
  cases instruction with
  | step set next =>
    simp only [successors]
    split
    · split <;> rfl
    · rfl
  | check l next =>
    simp only [successors]
    split <;> split <;> rfl
  | record slot next => rfl
  | fork first second => rfl
  | jump next => rfl
  | accept => rfl

theorem length_successors_le (b : Branch) (instruction : Instruction) :
    (b.successors s.toArray instruction).length ≤ 2 := by
  cases instruction with
  | step set next =>
    simp only [successors]
    split
    · split <;> simp
    · simp
  | check l next =>
    simp only [successors]
    split <;> split <;> simp
  | record slot next => exact Nat.le_succ 1
  | fork first second => exact Nat.le_refl 2
  | jump next => exact Nat.le_succ 1
  | accept => exact Nat.zero_le 2

theorem position_le_of_mem_successors {b c : Branch} {instruction : Instruction}
    (hc : c ∈ b.successors s.toArray instruction) (hb : b.position ≤ s.length) :
    c.position ≤ s.length := by
  cases instruction with
  | step set next =>
    simp only [successors, List.getElem?_toArray] at hc
    split at hc
    · rename_i d hd
      obtain ⟨hlt, _⟩ := List.getElem?_eq_some_iff.1 hd
      split at hc
      · rw [List.mem_singleton] at hc
        subst hc
        exact hlt
      · exact absurd hc List.not_mem_nil
    · exact absurd hc List.not_mem_nil
  | check l next =>
    simp only [successors] at hc
    split at hc <;> split at hc <;> simp_all [jump]
  | record slot next =>
    simp only [successors, List.mem_singleton] at hc
    subst hc
    exact hb
  | fork first second =>
    simp only [successors, List.mem_cons, List.not_mem_nil, or_false] at hc
    rcases hc with rfl | rfl <;> exact hb
  | jump next =>
    simp only [successors, List.mem_singleton] at hc
    subst hc
    exact hb
  | accept => exact absurd hc List.not_mem_nil

end Branch

/-! ### What a search finds is a run that accepts -/

theorem accepts_of_explore {fuel : Nat} {visited visited' : Visited} {pending : List Branch}
    {slots : Array (Option Nat)}
    (h : explore program s.toArray fuel visited pending = (some slots, visited')) :
    ∃ b ∈ pending, ∃ n, Accepts program s n b slots := by
  fun_induction explore program s.toArray fuel visited pending with
  | case1 => simp at h
  | case2 => simp at h
  | case3 fuel visited branch rest mark hvisited ih =>
    obtain ⟨b, hb, hrun⟩ := ih h
    exact ⟨b, List.mem_cons_of_mem _ hb, hrun⟩
  | case4 fuel visited branch rest mark hvisited entered hnone ih =>
    obtain ⟨b, hb, hrun⟩ := ih h
    exact ⟨b, List.mem_cons_of_mem _ hb, hrun⟩
  | case5 fuel visited branch rest mark hvisited entered haccept =>
    obtain ⟨hslots, _⟩ := Prod.mk.inj h
    obtain rfl := Option.some.inj hslots
    exact ⟨branch, List.mem_cons_self, 0, .accept _ haccept⟩
  | case6 fuel visited branch rest mark hvisited entered instruction hne hother ih =>
    obtain ⟨b, hb, n, hrun⟩ := ih h
    rcases List.mem_append.1 hb with hb | hb
    · exact ⟨branch, List.mem_cons_self, n + 1, .step _ _ _ _ _ hother hb hrun⟩
    · exact ⟨b, List.mem_cons_of_mem _ hb, n, hrun⟩

/-! ### What a search does not find is not there -/

/-- Nothing accepts at a visited mark, and what it leads to has been visited or is pending. -/
def Closed (program : Array Instruction) (s : List Char) (visited : Visited)
    (pending : List Branch) : Prop :=
  ∀ b : Branch, b.mark ∈ visited → ∀ instruction, program[b.instruction]? = some instruction →
    instruction ≠ .accept ∧ ∀ c ∈ b.successors s.toArray instruction,
      c.mark ∈ visited ∨ c.mark ∈ pending.map Branch.mark

theorem Closed.not_live {visited : Visited} (h : Closed program s visited []) {n i : Nat}
    (hmem : (n, i) ∈ visited) : ¬Live program s n i := by
  intro hlive
  induction hlive with
  | accept n i haccept => exact (h ⟨n, i, #[]⟩ hmem _ haccept).1 rfl
  | step n i slots instruction b hinstruction hb _ ih =>
    rcases (h ⟨n, i, slots⟩ hmem _ hinstruction).2 b hb with hvisited | hpending
    · exact ih hvisited
    · exact absurd hpending List.not_mem_nil

theorem Closed.skip {visited : Visited} {b : Branch} {rest : List Branch}
    (h : Closed program s visited (b :: rest)) (hb : b.mark ∈ visited) :
    Closed program s visited rest := by
  intro c hc instruction hinstruction
  obtain ⟨hne, hleads⟩ := h c hc instruction hinstruction
  refine ⟨hne, fun d hd => ?_⟩
  rcases hleads d hd with hvisited | hpending
  · exact Or.inl hvisited
  · rcases List.mem_cons.1 hpending with heq | hrest
    · exact Or.inl (heq ▸ hb)
    · exact Or.inr hrest

/-- A branch that is entered leaves a closed mark when what it leads to becomes pending. -/
theorem Closed.enter {visited : Visited} {b : Branch} {rest : List Branch}
    (h : Closed program s visited (b :: rest)) (more : List Branch)
    (hb : ∀ instruction, program[b.instruction]? = some instruction →
      instruction ≠ .accept ∧ more = b.successors s.toArray instruction) :
    Closed program s (visited.insert b.mark) (more ++ rest) := by
  intro c hc instruction hinstruction
  rw [Std.HashSet.mem_insert, beq_iff_eq] at hc
  by_cases heq : b.mark = c.mark
  · have hsame : b.instruction = c.instruction := (Prod.mk.inj heq).1
    obtain ⟨hne, rfl⟩ := hb instruction (hsame ▸ hinstruction)
    refine ⟨hne, fun d hd => Or.inr ?_⟩
    rw [List.map_append, Branch.map_mark_successors heq]
    exact List.mem_append_left _ (List.mem_map_of_mem hd)
  · obtain ⟨hne, hleads⟩ := h c (hc.resolve_left heq) instruction hinstruction
    refine ⟨hne, fun d hd => ?_⟩
    rw [Std.HashSet.mem_insert, beq_iff_eq]
    rcases hleads d hd with hvisited | hpending
    · exact Or.inl (Or.inr hvisited)
    · rcases List.mem_cons.1 hpending with heq | hrest
      · exact Or.inl (Or.inl heq.symm)
      · rw [List.map_append]
        exact Or.inr (List.mem_append_right _ hrest)

/-! ### The number of steps -/

/-- The marks that a search can leave. -/
def marks (program : Array Instruction) (s : List Char) : List (Nat × Nat) :=
  (List.range program.size).flatMap fun n => (List.range (s.length + 1)).map fun i => (n, i)

theorem mem_marks {n i : Nat} : (n, i) ∈ marks program s ↔ n < program.size ∧ i ≤ s.length := by
  simp only [marks, List.mem_flatMap, List.mem_range, List.mem_map, Prod.mk.injEq, Nat.lt_succ_iff]
  constructor
  · rintro ⟨n, hn, i, hi, rfl, rfl⟩
    exact ⟨hn, hi⟩
  · rintro ⟨hn, hi⟩
    exact ⟨n, hn, i, hi, rfl, rfl⟩

theorem length_marks : (marks program s).length = program.size * (s.length + 1) := by
  simp [marks, List.length_flatMap, List.map_const']

/-- The marks still to be left. -/
def unvisited (program : Array Instruction) (s : List Char) (visited : Visited) :
    List (Nat × Nat) :=
  (marks program s).filter fun mark => !visited.contains mark

theorem unvisited_insert (visited : Visited) (mark : Nat × Nat) :
    unvisited program s (visited.insert mark) =
      (unvisited program s visited).filter fun other => !mark == other := by
  simp [unvisited, List.filter_filter, Std.HashSet.contains_insert]

theorem length_unvisited_insert_le (visited : Visited) (mark : Nat × Nat) :
    (unvisited program s (visited.insert mark)).length ≤
      (unvisited program s visited).length := by
  rw [unvisited_insert]
  exact List.length_filter_le _ _

theorem length_unvisited_insert_lt {visited : Visited} {b : Branch} {instruction : Instruction}
    (hb : program[b.instruction]? = some instruction) (hpos : b.position ≤ s.length)
    (hnew : b.mark ∉ visited) :
    (unvisited program s (visited.insert b.mark)).length <
      (unvisited program s visited).length := by
  obtain ⟨hlt, _⟩ := Array.getElem?_eq_some_iff.1 hb
  rw [unvisited_insert, List.length_filter_lt_length_iff_exists]
  refine ⟨b.mark, List.mem_filter.2 ⟨mem_marks.2 ⟨hlt, hpos⟩, ?_⟩, by simp⟩
  rw [Std.HashSet.mem_iff_contains] at hnew
  simp [hnew]

theorem closed_of_explore {fuel : Nat} {visited visited' : Visited} {pending : List Branch}
    (h : explore program s.toArray fuel visited pending = (none, visited'))
    (hclosed : Closed program s visited pending)
    (hpos : ∀ b ∈ pending, b.position ≤ s.length)
    (hfuel : 2 * (unvisited program s visited).length + pending.length ≤ fuel) :
    Closed program s visited' [] ∧ (∀ mark ∈ visited, mark ∈ visited') ∧
      ∀ b ∈ pending, b.mark ∈ visited' := by
  -- a mark that is left for the first time pays for the at most two branches it leads to
  fun_induction explore program s.toArray fuel visited pending with
  | case1 visited pending =>
    obtain rfl := List.length_eq_zero_iff.1 (by omega : pending.length = 0)
    obtain ⟨_, rfl⟩ := Prod.mk.inj h
    exact ⟨hclosed, fun _ => id, fun b hb => absurd hb List.not_mem_nil⟩
  | case2 =>
    obtain ⟨_, rfl⟩ := Prod.mk.inj h
    exact ⟨hclosed, fun _ => id, fun b hb => absurd hb List.not_mem_nil⟩
  | case3 fuel visited branch rest mark hvisited ih =>
    have hmem : branch.mark ∈ visited := Std.HashSet.mem_iff_contains.2 hvisited
    obtain ⟨hclosed', hold, hrest⟩ := ih h (hclosed.skip hmem)
      (fun b hb => hpos b (List.mem_cons_of_mem _ hb))
      (by rw [List.length_cons] at hfuel; omega)
    refine ⟨hclosed', hold, fun b hb => ?_⟩
    rcases List.mem_cons.1 hb with rfl | hb
    · exact hold _ hmem
    · exact hrest b hb
  | case4 fuel visited branch rest mark hvisited entered hnone ih =>
    have hle : (unvisited program s entered).length ≤ _ := length_unvisited_insert_le visited _
    obtain ⟨hclosed', hold, hrest⟩ := ih h
      (hclosed.enter [] fun _ hsome => nomatch hnone.symm.trans hsome)
      (fun b hb => hpos b (List.mem_cons_of_mem _ hb))
      (by rw [List.length_cons] at hfuel; omega)
    refine ⟨hclosed', fun m hm => hold m (Std.HashSet.mem_insert.2 (Or.inr hm)), fun b hb => ?_⟩
    rcases List.mem_cons.1 hb with rfl | hb
    · exact hold _ Std.HashSet.mem_insert_self
    · exact hrest b hb
  | case5 => simp at h
  | case6 fuel visited branch rest mark hvisited entered instruction hne hother ih =>
    have hbpos := hpos branch List.mem_cons_self
    have hnew : branch.mark ∉ visited := fun hmem =>
      hvisited (Std.HashSet.mem_iff_contains.1 hmem)
    have hlt : (unvisited program s entered).length < _ :=
      length_unvisited_insert_lt hother hbpos hnew
    have htwo := Branch.length_successors_le (s := s) branch instruction
    obtain ⟨hclosed', hold, hrest⟩ := ih h
      (hclosed.enter _ fun _ hsome => by
        obtain rfl := Option.some.inj (hother.symm.trans hsome)
        exact ⟨hne, rfl⟩)
      (fun b hb => by
        rcases List.mem_append.1 hb with hb | hb
        · exact Branch.position_le_of_mem_successors hb hbpos
        · exact hpos b (List.mem_cons_of_mem _ hb))
      (by
        rw [List.length_cons] at hfuel
        rw [List.length_append]
        omega)
    refine ⟨hclosed', fun m hm => hold m (Std.HashSet.mem_insert.2 (Or.inr hm)), fun b hb => ?_⟩
    rcases List.mem_cons.1 hb with rfl | hb
    · exact hold _ Std.HashSet.mem_insert_self
    · exact hrest b (List.mem_append_right _ hb)

/-! ### From each position on -/

theorem accepts_of_searchFrom {slots slots' : Array (Option Nat)} {count start : Nat}
    {visited : Visited}
    (h : searchFrom program s.toArray slots count start visited = some slots') :
    ∃ i n, i < start + count ∧ Accepts program s n ⟨0, i, slots⟩ slots' := by
  fun_induction searchFrom program s.toArray slots count start visited with
  | case1 => exact nomatch h
  | case2 count start visited fuel found visited' hexplore =>
    obtain rfl := Option.some.inj h
    obtain ⟨b, hb, n, hrun⟩ := accepts_of_explore hexplore
    rw [List.mem_singleton] at hb
    subst hb
    exact ⟨start, n, by omega, hrun⟩
  | case3 count start visited fuel visited' hexplore ih =>
    obtain ⟨i, n, hlt, hrun⟩ := ih h
    exact ⟨i, n, by omega, hrun⟩

theorem not_live_of_searchFrom {slots : Array (Option Nat)} {count start : Nat} {visited : Visited}
    (h : searchFrom program s.toArray slots count start visited = none)
    (hclosed : Closed program s visited []) (hcount : start + count ≤ s.length + 1) :
    ∀ i, start ≤ i → i < start + count → ¬Live program s 0 i := by
  fun_induction searchFrom program s.toArray slots count start visited with
  | case1 => omega
  | case2 => exact nomatch h
  | case3 count start visited fuel visited' hexplore ih =>
    have hle := List.length_filter_le (fun mark => !visited.contains mark) (marks program s)
    rw [length_marks] at hle
    -- what earlier starts have visited is closed already, so nothing of it is pending
    have hpending : Closed program s visited [⟨0, start, slots⟩] := fun b hb instruction hsome =>
      ⟨(hclosed b hb instruction hsome).1, fun c hc =>
        Or.inl (((hclosed b hb instruction hsome).2 c hc).resolve_right List.not_mem_nil)⟩
    obtain ⟨hclosed', _, hstart⟩ := closed_of_explore hexplore hpending
      (fun b hb => by rw [List.mem_singleton.1 hb]; show start ≤ s.length; omega)
      (by simp only [List.length_singleton, unvisited, fuel, List.size_toArray]; omega)
    intro i hi hlt
    by_cases heq : i = start
    · subst heq
      exact hclosed'.not_live (hstart _ (List.mem_singleton_self _))
    · exact ih h hclosed' (by omega) i (by omega) (by omega)

end FormRules.Pattern

namespace FormRules.Pattern.Program

open Regex

variable {s : List Char} {r : Regex} {i j : Nat}

/-! ### The whole program -/

theorem placed_ofRegex (r : Regex) :
    Placed (ofRegex r) 0 (.record 0 1 :: (layout r 1 (1 + size r) ++
      [.record 1 (2 + size r), .accept])) := by
  intro n instruction hn
  rwa [Nat.zero_add, ofRegex, List.getElem?_toArray]

theorem live_ofRegex (h : r.Spans s i j) : Live (ofRegex r) s 0 i := by
  have hplaced := placed_ofRegex r
  have hend := hplaced.tail.right _ (length_layout r _ _)
  refine live_record hplaced.head (live_layout r _ _ hplaced.tail.left i j h ?_)
  refine live_record hend.head (.accept _ _ ?_)
  have haccept := hend.tail.head
  rwa [show 0 + 1 + size r + 1 = 2 + size r by omega] at haccept

/-- A run of the whole program records in the first two slots where a span starts and ends. -/
theorem slots_of_accepts (hnumbered : r.Numbered) {n : Nat} {slots slots' : Array (Option Nat)}
    (hsize : 2 ≤ slots.size) (hi : i ≤ s.length)
    (h : Accepts (ofRegex r) s n ⟨0, i, slots⟩ slots') :
    ∃ j, slots'[0]? = some (some i) ∧ slots'[1]? = some (some j) ∧ r.Spans s i j := by
  have hplaced := placed_ofRegex r
  have hend := hplaced.tail.right _ (length_layout r _ _)
  have haccept := hend.tail.head
  obtain ⟨m, b, _, hb, hbody⟩ := h.onward hplaced.head (by simp)
  simp only [Branch.successors, List.mem_singleton] at hb
  subst hb
  obtain ⟨m', c, _, hc, hinstr, _, hspan, hsize', hfirst, _⟩ :=
    passes_layout r hnumbered _ _ hplaced.tail.left m _ slots' rfl hi hbody
  obtain ⟨m'', d, _, hd, hrun⟩ := hc.onward (by rw [hinstr]; exact hend.head) (by simp)
  simp only [Branch.successors, List.mem_singleton] at hd
  subst hd
  rw [show 0 + 1 + size r + 1 = 2 + size r by omega] at haccept
  cases hrun with
  | step _ _ e _ _ hinstruction he =>
    rw [haccept] at hinstruction
    obtain rfl := Option.some.inj hinstruction
    exact absurd he List.not_mem_nil
  | accept =>
    simp only [Array.size_setIfInBounds] at hsize'
    refine ⟨c.position, ?_, ?_, hspan⟩
    · simp only [Array.getElem?_setIfInBounds_ne (by decide : (1 : Nat) ≠ 0), hfirst]
      rw [Array.getElem?_setIfInBounds_self_of_lt (by omega)]
    · rw [Array.getElem?_setIfInBounds_self_of_lt (by omega)]

end FormRules.Pattern.Program

namespace FormRules.Pattern.Regex

open Program

variable {s : List Char} {r : Regex} {i j : Nat}

/-- The stretch that a search records for the whole match is a match. -/
theorem spans_of_search (hnumbered : r.Numbered) {spans : List (Option Span)}
    (h : r.search s = some spans) :
    ∃ i j, spans.head? = some (some (i, j)) ∧ r.Spans s i j := by
  obtain ⟨slots, hfound, rfl⟩ := Option.map_eq_some_iff.1 h
  obtain ⟨i, n, hlt, hrun⟩ := accepts_of_searchFrom hfound
  have hpos := groupCount_pos r
  obtain ⟨j, hfirst, hlast, hspan⟩ := slots_of_accepts hnumbered
    (by rw [Array.size_replicate]; omega) (by rw [List.size_toArray] at hlt; omega) hrun
  obtain ⟨count, hcount⟩ := Nat.exists_eq_succ_of_ne_zero (Nat.ne_of_gt hpos)
  refine ⟨i, j, ?_, hspan⟩
  rw [hcount, List.range_succ_eq_map, List.map_cons, List.head?_cons]
  simp only [Nat.mul_zero, Nat.zero_add, Array.getD_eq_getD_getElem?, hfirst, hlast,
    Option.getD_some]

/-- Where something matches, the search finds a match. -/
theorem search_ne_none (h : r.Spans s i j) : r.search s ≠ none := by
  intro hnone
  have hsearch := Option.map_eq_none_iff.1 hnone
  have hle := h.le
  refine not_live_of_searchFrom hsearch (fun _ hb => ?_) (by simp) i (Nat.zero_le i) ?_
    (live_ofRegex h)
  · exact absurd hb Std.HashSet.not_mem_empty
  · rw [List.size_toArray]
    omega

end FormRules.Pattern.Regex
