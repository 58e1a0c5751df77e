import FormRules.Proofs.Pattern.Memory
import Mathlib.Data.List.Basic

/-!
# Matches in the order of preference

`Regex.ways` lists the ways in which an expression matches from a position on, the preferred way
first: a sequence takes the ways of its first part in their order, and for each of them those of
its second part.  `searchAt_eq` says that the search finds the first way from the leftmost position
that has one.  It speaks of expressions in which what is repeated without limit has characters in
each round; the code of any other one can lead in a circle.
-/

namespace FormRules.Pattern

open Program

variable {program : Array Instruction} {s : List Char}

/-- How far a match has come, and what its groups have recorded. -/
structure Stand where
  position : Nat
  slots : Array (Option Nat)

namespace Stand

/-- The branch that goes on from here at an instruction. -/
def branch (x : Stand) (instruction : Nat) : Branch := ⟨instruction, x.position, x.slots⟩

def forward (x : Stand) (count : Nat) : Stand := ⟨x.position + count, x.slots⟩

def record (x : Stand) (slot : Nat) : Stand :=
  ⟨x.position, x.slots.setIfInBounds slot (some x.position)⟩

end Stand

/-! ### Ways to match -/

/-- Stopping before or after other ways, as the preference asks. -/
def orStop (greedy : Bool) (others : List Stand) (x : Stand) : List Stand :=
  if greedy then others ++ [x] else x :: others

/-- The ways through a number of rounds. -/
def requiredRounds (body : Stand → List Stand) : Nat → Stand → List Stand
  | 0, x => [x]
  | count + 1, x => (body x).flatMap (requiredRounds body count)

/-- The ways through no more than a number of rounds. -/
def optionalRounds (body : Stand → List Stand) (greedy : Bool) : Nat → Stand → List Stand
  | 0, x => [x]
  | count + 1, x => orStop greedy ((body x).flatMap (optionalRounds body greedy count)) x

namespace Regex

/-- The ways to match from a stand on, the preferred one first.  Of rounds that have characters
there are at most as many as the subject has characters. -/
def ways (s : List Char) : Regex → Stand → List Stand
  | .empty, x => [x]
  | .chars set, x => match s[x.position]? with
    | some c => if set.mem c then [x.forward 1] else []
    | none => []
  | .look l, x => if l.holds (charBefore s x.position) s[x.position]? then [x] else []
  | .group index r, x =>
    (r.ways s (x.record (2 * index))).map fun y => y.record (2 * index + 1)
  | .scope r, x => r.ways s x
  | .seq a b, x => (a.ways s x).flatMap (b.ways s)
  | .alt a b, x => a.ways s x ++ b.ways s x
  | .repeated r min none greedy, x =>
    (requiredRounds (r.ways s) min x).flatMap (optionalRounds (r.ways s) greedy s.length)
  | .repeated r min (some max) greedy, x =>
    (requiredRounds (r.ways s) min x).flatMap (optionalRounds (r.ways s) greedy (max - min))

/-- Whether what is repeated without limit has characters in each round. -/
def isSteady : Regex → Bool
  | .empty => true
  | .chars _ => true
  | .look _ => true
  | .group _ r => r.isSteady
  | .scope r => r.isSteady
  | .seq a b => a.isSteady && b.isSteady
  | .alt a b => a.isSteady && b.isSteady
  | .repeated r _ max _ => r.isSteady && (max.isSome || r.consumes)

end Regex

theorem requiredRounds_concat (body : Stand → List Stand) (count : Nat) (x : Stand) :
    requiredRounds body (count + 1) x = (requiredRounds body count x).flatMap body := by
  induction count generalizing x with
  | zero =>
    rw [requiredRounds, requiredRounds, List.flatMap_singleton]
    exact List.flatMap_singleton' (body x)
  | succ count ih =>
    rw [requiredRounds, requiredRounds, List.flatMap_assoc]
    exact List.flatMap_congr fun y _ => ih y

/-! ### Ways lead onward -/

/-- From one stand to another the position does not fall, and does not leave the subject. -/
def Onward (s : List Char) (x y : Stand) : Prop :=
  x.position ≤ y.position ∧ (y.position ≤ s.length ∨ y.position = x.position)

theorem Onward.refl (x : Stand) : Onward s x x := ⟨Nat.le_refl _, Or.inr rfl⟩

theorem Onward.trans {x y z : Stand} (h : Onward s x y) (h' : Onward s y z) : Onward s x z := by
  unfold Onward at *
  omega

theorem mem_orStop {greedy : Bool} {others : List Stand} {x y : Stand} :
    y ∈ orStop greedy others x ↔ y ∈ others ∨ y = x := by
  cases greedy with
  | true => simp [orStop]
  | false => simp [orStop, or_comm]

section Rounds

variable {body : Stand → List Stand} (hbody : ∀ x, ∀ y ∈ body x, Onward s x y)
include hbody

theorem onward_requiredRounds (count : Nat) (x : Stand) :
    ∀ y ∈ requiredRounds body count x, Onward s x y := by
  induction count generalizing x with
  | zero => exact fun y hy => List.mem_singleton.1 hy ▸ Onward.refl y
  | succ count ih =>
    intro y hy
    obtain ⟨z, hz, hy⟩ := List.mem_flatMap.1 hy
    exact (hbody x z hz).trans (ih z y hy)

theorem onward_optionalRounds (greedy : Bool) (count : Nat) (x : Stand) :
    ∀ y ∈ optionalRounds body greedy count x, Onward s x y := by
  induction count generalizing x with
  | zero => exact fun y hy => List.mem_singleton.1 hy ▸ Onward.refl y
  | succ count ih =>
    intro y hy
    obtain hy | rfl := mem_orStop.1 hy
    · obtain ⟨z, hz, hy⟩ := List.mem_flatMap.1 hy
      exact (hbody x z hz).trans (ih z y hy)
    · exact Onward.refl y

end Rounds

namespace Regex

theorem mem_ways_chars {set : CharSet} {x y : Stand} :
    y ∈ (chars set).ways s x ↔
      ∃ c, s[x.position]? = some c ∧ set.mem c = true ∧ y = x.forward 1 := by
  simp only [ways]
  split
  · rename_i c hc
    split
    · rename_i hset
      simp [hc, hset]
    · rename_i hset
      simp [hc, hset]
  · rename_i hnone
    simp [hnone]

theorem onward_ways (r : Regex) (x : Stand) : ∀ y ∈ r.ways s x, Onward s x y := by
  induction r generalizing x with
  | empty => exact fun y hy => List.mem_singleton.1 hy ▸ Onward.refl y
  | chars set =>
    intro y hy
    obtain ⟨c, hc, _, rfl⟩ := mem_ways_chars.1 hy
    obtain ⟨hlt, _⟩ := List.getElem?_eq_some_iff.1 hc
    exact ⟨Nat.le_succ _, Or.inl hlt⟩
  | look l =>
    intro y hy
    rw [ways] at hy
    split at hy
    · exact List.mem_singleton.1 hy ▸ Onward.refl y
    · cases hy
  | group index r ih =>
    intro y hy
    obtain ⟨z, hz, rfl⟩ := List.mem_map.1 hy
    exact ih (x.record (2 * index)) z hz
  | scope r ih => exact ih x
  | seq a b iha ihb =>
    intro y hy
    obtain ⟨z, hz, hy⟩ := List.mem_flatMap.1 hy
    exact (iha x z hz).trans (ihb z y hy)
  | alt a b iha ihb =>
    intro y hy
    exact (List.mem_append.1 hy).elim (iha x y) (ihb x y)
  | repeated r min max greedy ih =>
    intro y hy
    have hboth {count more : Nat} (hy : y ∈ (requiredRounds (r.ways s) count x).flatMap
        (optionalRounds (r.ways s) greedy more)) : Onward s x y := by
      obtain ⟨z, hz, hy⟩ := List.mem_flatMap.1 hy
      exact (onward_requiredRounds ih count x z hz).trans (onward_optionalRounds ih _ _ z y hy)
    cases max with
    | none => exact hboth hy
    | some max => exact hboth hy

theorem lt_of_consumes {r : Regex} (h : r.consumes = true) {x y : Stand} (hy : y ∈ r.ways s x) :
    x.position < y.position := by
  induction r generalizing x y with
  | empty => cases h
  | chars set =>
    obtain ⟨c, _, _, rfl⟩ := mem_ways_chars.1 hy
    exact Nat.lt_succ_self _
  | look l => cases h
  | group index r ih =>
    obtain ⟨z, hz, rfl⟩ := List.mem_map.1 hy
    exact ih (x := x.record (2 * index)) (y := z) h hz
  | scope r ih => exact ih h hy
  | seq a b iha ihb =>
    obtain ⟨z, hz, hy⟩ := List.mem_flatMap.1 hy
    obtain ha | hb := Bool.or_eq_true_iff.1 h
    · exact Nat.lt_of_lt_of_le (iha ha hz) (onward_ways b z y hy).1
    · exact Nat.lt_of_le_of_lt (onward_ways a x z hz).1 (ihb hb hy)
  | alt a b iha ihb =>
    obtain ⟨ha, hb⟩ := Bool.and_eq_true_iff.1 h
    exact (List.mem_append.1 hy).elim (iha ha) (ihb hb)
  | repeated r min max greedy ih =>
    obtain ⟨hmin, hr⟩ := Bool.and_eq_true_iff.1 h
    obtain ⟨least, rfl⟩ := Nat.exists_eq_succ_of_ne_zero (bne_iff_ne.1 hmin)
    have hfirst {more : Nat} (hy : y ∈ (requiredRounds (r.ways s) (least + 1) x).flatMap
        (optionalRounds (r.ways s) greedy more)) : x.position < y.position := by
      obtain ⟨w, hw, hy⟩ := List.mem_flatMap.1 hy
      obtain ⟨z, hz, hw⟩ := List.mem_flatMap.1 hw
      have hlater := (onward_requiredRounds (onward_ways r) least z w hw).trans
        (onward_optionalRounds (onward_ways r) _ _ w y hy)
      exact Nat.lt_of_lt_of_le (ih hr hz) hlater.1
    cases max with
    | none => exact hfirst hy
    | some max => exact hfirst hy

end Regex

/-! ### Code leads to its ways -/

/-- The search without memory ends, with what it finds. -/
def Yields (program : Array Instruction) (s : List Char) (pending : List Branch)
    (found : Option (Array (Option Nat))) : Prop := ∃ k, Probes program s k pending found

theorem Yields.append {a b others : List Branch} {found : Option (Array (Option Nat))}
    (h : Yields program s (a ++ b) found)
    (hothers : ∀ found, Yields program s b found → Yields program s others found) :
    Yields program s (a ++ others) found := by
  obtain ⟨k, h⟩ := h
  generalize hpending : a ++ b = pending at h
  induction h generalizing a with
  | nothing =>
    obtain ⟨rfl, rfl⟩ := List.append_eq_nil_iff.1 hpending
    exact hothers none ⟨0, .nothing⟩
  | accept c rest haccept =>
    cases a with
    | nil =>
      obtain rfl : b = c :: rest := hpending
      exact hothers _ ⟨0, .accept _ _ haccept⟩
    | cons d a =>
      obtain ⟨rfl, rfl⟩ := List.cons.inj hpending
      exact ⟨0, .accept _ _ haccept⟩
  | leave k c rest found hnone hrest ih =>
    cases a with
    | nil =>
      obtain rfl : b = c :: rest := hpending
      exact hothers _ ⟨k + 1, .leave _ _ _ _ hnone hrest⟩
    | cons d a =>
      obtain ⟨rfl, rfl⟩ := List.cons.inj hpending
      obtain ⟨m, hmore⟩ := ih rfl
      exact ⟨m + 1, .leave _ _ _ _ hnone hmore⟩
  | enter k c rest found instruction hsome hne hrest ih =>
    cases a with
    | nil =>
      obtain rfl : b = c :: rest := hpending
      exact hothers _ ⟨k + 1, .enter _ _ _ _ _ hsome hne hrest⟩
    | cons d a =>
      obtain ⟨rfl, rfl⟩ := List.cons.inj hpending
      obtain ⟨m, hmore⟩ := ih (List.append_assoc _ _ _)
      rw [List.append_assoc] at hmore
      exact ⟨m + 1, .enter _ _ _ _ _ hsome hne hmore⟩

/-- In a search some branches can be replaced by others. -/
def Unfolds (program : Array Instruction) (s : List Char) (a b : List Branch) : Prop :=
  ∀ rest found, Yields program s (b ++ rest) found → Yields program s (a ++ rest) found

namespace Unfolds

variable {a b c d : List Branch}

theorem refl (a : List Branch) : Unfolds program s a a := fun _ _ h => h

theorem trans (h : Unfolds program s a b) (h' : Unfolds program s b c) : Unfolds program s a c :=
  fun rest found hc => h rest found (h' rest found hc)

theorem append (h : Unfolds program s a b) (h' : Unfolds program s c d) :
    Unfolds program s (a ++ c) (b ++ d) := by
  intro rest found hyields
  rw [List.append_assoc] at hyields ⊢
  exact h _ _ (hyields.append fun found => h' rest found)

theorem flatMap {α : Type} {f g : α → List Branch} {xs : List α}
    (h : ∀ x ∈ xs, Unfolds program s (f x) (g x)) :
    Unfolds program s (xs.flatMap f) (xs.flatMap g) := by
  induction xs with
  | nil => exact refl []
  | cons x xs ih =>
    rw [List.flatMap_cons, List.flatMap_cons]
    exact (h x List.mem_cons_self).append (ih fun y hy => h y (List.mem_cons_of_mem _ hy))

theorem enter {b : Branch} {instruction : Instruction}
    (h : program[b.instruction]? = some instruction) (hne : instruction ≠ .accept) :
    Unfolds program s [b] (b.successors s.toArray instruction) :=
  fun _ _ ⟨k, hrest⟩ => ⟨k + 1, .enter _ _ _ _ _ h hne hrest⟩

end Unfolds

variable {start mid next : Nat} {body after : Stand → List Stand}

/-- The code from `start` to `next` goes through some ways, in their order. -/
def Follows (program : Array Instruction) (s : List Char) (start next : Nat)
    (ways : Stand → List Stand) : Prop :=
  ∀ x : Stand, Unfolds program s [x.branch start] ((ways x).map fun y => y.branch next)

theorem Follows.map (h : Follows program s mid next after) (xs : List Stand) :
    Unfolds program s (xs.map fun x => x.branch mid)
      ((xs.flatMap after).map fun y => y.branch next) := by
  rw [List.map_flatMap, List.map_eq_flatMap]
  exact Unfolds.flatMap fun x _ => h x

theorem Follows.seq (h : Follows program s start mid body) (h' : Follows program s mid next after) :
    Follows program s start next fun x => (body x).flatMap after :=
  fun x => (h x).trans (h'.map (body x))

theorem unfolds_fork {first second : Nat} {x : Stand} {a b : List Branch}
    (h : program[start]? = some (.fork first second))
    (ha : Unfolds program s [x.branch first] a) (hb : Unfolds program s [x.branch second] b) :
    Unfolds program s [x.branch start] (a ++ b) :=
  (Unfolds.enter (b := x.branch start) h nofun).trans (ha.append hb)

theorem unfolds_choose {greedy : Bool} {round : Nat} {x : Stand} {others : List Stand}
    (h : program[start]? = some (choose greedy round next))
    (hround : Unfolds program s [x.branch round] (others.map fun y => y.branch next)) :
    Unfolds program s [x.branch start] ((orStop greedy others x).map fun y => y.branch next) := by
  cases greedy with
  | true =>
    rw [orStop, if_pos rfl, List.map_append]
    exact unfolds_fork h hround (.refl _)
  | false => exact unfolds_fork h (.refl [x.branch next]) hround

/-! ### Repetitions -/

/-- A fork between another round and going on, to which the rounds come back. -/
theorem follows_loop {greedy : Bool} {round test : Nat}
    (htest : program[test]? = some (choose greedy round next))
    (hround : Follows program s round test body) (honward : ∀ x, ∀ y ∈ body x, Onward s x y)
    (hconsumes : ∀ x, ∀ y ∈ body x, x.position < y.position) :
    Follows program s test next (optionalRounds body greedy s.length) := by
  suffices hmore : ∀ more x, s.length ≤ x.position + more → Unfolds program s [x.branch test]
      ((optionalRounds body greedy more x).map fun y => y.branch next) from
    fun x => hmore s.length x (Nat.le_add_left _ _)
  intro more
  induction more with
  | zero =>
    intro x hx
    -- at the end of the subject there is no further round
    have hnone : body x = [] := by
      refine List.eq_nil_iff_forall_not_mem.2 fun y hy => ?_
      have hlt := hconsumes x y hy
      have hle := (honward x y hy).2
      omega
    have hround' := hround x
    rw [hnone] at hround'
    have hchoose : Unfolds program s [x.branch test]
        ((orStop greedy [] x).map fun y => y.branch next) := unfolds_choose htest hround'
    cases greedy with
    | true => exact hchoose
    | false => exact hchoose
  | succ more ih =>
    intro x hx
    refine unfolds_choose htest ((hround x).trans ?_)
    rw [List.map_flatMap, List.map_eq_flatMap]
    refine Unfolds.flatMap fun y hy => ih y ?_
    have hlt := hconsumes x y hy
    omega

variable {emit : Nat → Nat → List Instruction} {length : Nat}

theorem follows_copies (hlength : ∀ start next, (emit start next).length = length)
    (hemit : ∀ start next, Placed program start (emit start next) →
      Follows program s start next body)
    (count start next : Nat) (hzero : count = 0 → start = next)
    (h : Placed program start (copies emit length count start next)) :
    Follows program s start next (requiredRounds body count) := by
  fun_induction copies emit length count start next with
  | case1 start next =>
    rw [hzero rfl]
    exact fun x => .refl _
  | case2 start next =>
    intro x
    rw [requiredRounds_concat, requiredRounds, List.flatMap_singleton]
    exact hemit _ _ h x
  | case3 start next count ih =>
    have hlater := ih (by omega) (h.right _ (hlength _ _))
    exact (hemit _ _ h.left).seq hlater

theorem follows_optionalCopies {greedy : Bool}
    (hlength : ∀ start next, (emit start next).length = length)
    (hemit : ∀ start next, Placed program start (emit start next) →
      Follows program s start next body)
    (count start next : Nat) (hzero : count = 0 → start = next)
    (h : Placed program start (optionalCopies emit length greedy count start next)) :
    Follows program s start next (optionalRounds body greedy count) := by
  fun_induction optionalCopies emit length greedy count start next with
  | case1 start next =>
    rw [hzero rfl]
    exact fun x => .refl _
  | case2 start next =>
    intro x
    refine unfolds_choose h.head ?_
    rw [show optionalRounds body greedy 0 = fun x => [x] from rfl, List.flatMap_singleton']
    exact hemit _ _ h.tail x
  | case3 start next count ih =>
    have hafter := h.right (length + 1) (by rw [List.length_cons, hlength])
    rw [← Nat.add_assoc] at hafter
    have hlater := ih (by omega) hafter
    exact fun x => unfolds_choose h.left.head ((hemit _ _ h.left.tail).seq hlater x)

theorem follows_repeated {r : Regex} {min : Nat} {max : Option Nat} {greedy : Bool}
    (hsteady : max = none → r.consumes = true)
    (hr : ∀ start next, Placed program start (layout r start next) →
      Follows program s start next (r.ways s))
    (h : Placed program start (layout (.repeated r min max greedy) start next)) :
    Follows program s start next ((Regex.repeated r min max greedy).ways s) := by
  have hlength := length_layout r
  cases max with
  | none =>
    have hconsumes := hsteady rfl
    have hlt := fun x y hy => Regex.lt_of_consumes (s := s) (x := x) (y := y) hconsumes hy
    simp only [layout] at h
    split at h
    · rename_i hmin
      subst hmin
      intro x
      rw [Regex.ways, requiredRounds, List.flatMap_singleton]
      exact follows_loop h.head (hr _ _ h.tail) r.onward_ways hlt x
    · -- all but one of the required rounds, then the body of the loop, then its repetitions
      rename_i hmin
      obtain ⟨least, rfl⟩ := Nat.exists_eq_succ_of_ne_zero hmin
      rw [Nat.succ_sub_one] at h
      have hcopies := length_copies (layout r) (size r) hlength least start
        (start + least * size r)
      have hlast := h.left.right _ hcopies
      have htest := (h.right _ (by rw [List.length_append, hcopies, hlength])).head
      rw [← Nat.add_assoc] at htest
      have hleast := follows_copies hlength hr least start (start + least * size r)
        (fun hzero => by rw [hzero, Nat.zero_mul, Nat.add_zero]) h.left.left
      have hloop := follows_loop htest (hr _ _ hlast) r.onward_ways hlt
      intro x
      rw [Regex.ways, requiredRounds_concat, List.flatMap_assoc]
      exact (hleast.seq ((hr _ _ hlast).seq hloop)) x
  | some most =>
    simp only [layout] at h
    split at h
    · rename_i hzero
      simp only [Bool.and_eq_true, decide_eq_true_eq] at hzero
      obtain ⟨rfl, rfl⟩ := hzero
      exact fun x => Unfolds.enter (b := x.branch start) h.head (by simp)
    · rename_i hzero
      simp only [Bool.and_eq_true, decide_eq_true_eq, not_and] at hzero
      by_cases hle : most ≤ min
      · rw [if_pos hle] at h
        have hleast := follows_copies hlength hr min start next (fun hmin => by omega) h.left
        intro x
        rw [Regex.ways, Nat.sub_eq_zero_of_le hle]
        have hstop : optionalRounds (r.ways s) greedy 0 = fun x => [x] := rfl
        rw [hstop, List.flatMap_singleton']
        exact hleast x
      · rw [if_neg hle] at h
        have hleast := follows_copies hlength hr min start (start + min * size r)
          (fun hmin => by rw [hmin, Nat.zero_mul, Nat.add_zero]) h.left
        have hmore := follows_optionalCopies hlength hr (most - min) (start + min * size r) next
          (fun hmost => by omega) (h.right _ (length_copies (layout r) (size r) hlength _ _ _))
        exact hleast.seq hmore

theorem follows_layout (r : Regex) (hsteady : r.isSteady = true) (start next : Nat)
    (h : Placed program start (layout r start next)) :
    Follows program s start next (r.ways s) := by
  induction r generalizing start next with
  | empty => exact fun x => Unfolds.enter (b := x.branch start) h.head (by simp)
  | chars set =>
    intro x
    have henter := Unfolds.enter (s := s) (b := x.branch start) h.head (by simp)
    have hways : (x.branch start).successors s.toArray (.step set next) =
        ((Regex.chars set).ways s x).map fun y => y.branch next := by
      simp only [Branch.successors, Stand.branch, List.getElem?_toArray, Regex.ways]
      cases s[x.position]? with
      | none => rfl
      | some c =>
        simp only
        split <;> rfl
    rwa [hways] at henter
  | look l =>
    intro x
    have henter := Unfolds.enter (s := s) (b := x.branch start) h.head (by simp)
    have hways : (x.branch start).successors s.toArray (.check l next) =
        ((Regex.look l).ways s x).map fun y => y.branch next := by
      simp only [Branch.successors, Stand.branch, List.getElem?_toArray, Regex.ways, charBefore]
      split <;> split <;> simp_all [Branch.jump, Stand.branch]
    rwa [hways] at henter
  | group index r ih =>
    have hbody := h.left.tail
    have hclose := (h.right (size r + 1) (by rw [List.length_cons, length_layout])).head
    rw [← Nat.add_assoc, Nat.add_right_comm] at hclose
    have hend : Follows program s (start + 1 + size r) next fun y => [y.record (2 * index + 1)] :=
      fun y => Unfolds.enter (b := y.branch (start + 1 + size r)) hclose (by simp)
    intro x
    have hopen := Unfolds.enter (s := s) (b := x.branch start) h.left.head (by simp)
    have hrecord : (Regex.group index r).ways s x =
        (r.ways s (x.record (2 * index))).flatMap fun y => [y.record (2 * index + 1)] :=
      List.map_eq_flatMap
    rw [hrecord]
    exact hopen.trans (((ih hsteady _ _ hbody).seq hend) (x.record (2 * index)))
  | scope r ih => exact ih hsteady _ _ h
  | seq a b iha ihb =>
    obtain ⟨ha, hb⟩ := Bool.and_eq_true_iff.1 hsteady
    exact (iha ha _ _ h.left).seq (ihb hb _ _ (h.right _ (length_layout _ _ _)))
  | alt a b iha ihb =>
    obtain ⟨ha, hb⟩ := Bool.and_eq_true_iff.1 hsteady
    have hsecond := h.right (size a + 1) (by rw [List.length_cons, length_layout])
    rw [← Nat.add_assoc, Nat.add_right_comm] at hsecond
    intro x
    rw [Regex.ways, List.map_append]
    exact unfolds_fork h.left.head (iha ha _ _ h.left.tail x) (ihb hb _ _ hsecond x)
  | repeated r min max greedy ih =>
    obtain ⟨hr, hmax⟩ := Bool.and_eq_true_iff.1 hsteady
    refine follows_repeated (fun hnone => ?_) (ih hr) h
    subst hnone
    exact hmax

/-! ### The first way -/

namespace Regex

/-- What is recorded before a match: only where it starts. -/
def opening (r : Regex) (start : Nat) : Stand :=
  Stand.record ⟨start, Array.replicate (2 * r.groupCount) none⟩ 0

/-- Where the preferred match from a position on ends, with what it has recorded. -/
def firstWay (r : Regex) (s : List Char) (start : Nat) : Option Stand :=
  ((r.ways s (r.opening start)).head?).map fun y => y.record 1

theorem yields_ofRegex {r : Regex} (hsteady : r.isSteady = true) (start : Nat) :
    Yields (ofRegex r) s [⟨0, start, Array.replicate (2 * r.groupCount) none⟩]
      ((r.firstWay s start).map Stand.slots) := by
  have hplaced := placed_ofRegex r
  have hend := hplaced.tail.right _ (length_layout r _ _)
  have haccept := hend.tail.head
  rw [show 0 + 1 + size r + 1 = 2 + size r by omega] at haccept
  have hopen := Unfolds.enter (s := s)
    (b := ⟨0, start, Array.replicate (2 * r.groupCount) none⟩) hplaced.head nofun
  have hbody := follows_layout (s := s) r hsteady _ _ hplaced.tail.left (r.opening start)
  refine (hopen.trans hbody) [] _ ?_
  rw [List.append_nil, firstWay]
  cases r.ways s (r.opening start) with
  | nil => exact ⟨0, .nothing⟩
  | cons y ys => exact ⟨1, .enter _ _ _ _ _ hend.head nofun (.accept _ _ haccept)⟩

/-- The stretches that groups have recorded. -/
def spansOf (r : Regex) (slots : Array (Option Nat)) : List (Option Span) :=
  (List.range r.groupCount).map fun index =>
    match slots.getD (2 * index) none, slots.getD (2 * index + 1) none with
    | some first, some last => some (first, last)
    | _, _ => none

/-- The search for a match that starts at a position or after it. -/
def searchAt (r : Regex) (s : List Char) (start : Nat) : Option (List (Option Span)) :=
  (searchFrom (ofRegex r) s.toArray (Array.replicate (2 * r.groupCount) none)
    (s.toArray.size + 1 - start) start {}).map r.spansOf

theorem searchAt_zero (r : Regex) (s : List Char) : r.searchAt s 0 = r.search s := rfl

theorem searchAt_eq {r : Regex} (hsteady : r.isSteady = true) (s : List Char) (start : Nat) :
    r.searchAt s start = ((List.range' start (s.length + 1 - start)).findSome? (r.firstWay s)).map
      fun y => r.spansOf y.slots := by
  have hsearch : searchFrom (ofRegex r) s.toArray (Array.replicate (2 * r.groupCount) none)
      (s.length + 1 - start) start {} =
        (List.range' start (s.length + 1 - start)).findSome?
          (Option.map Stand.slots ∘ r.firstWay s) := by
    by_cases hstart : start ≤ s.length + 1
    · exact searchFrom_eq (by omega) (fun i _ _ => yields_ofRegex hsteady i)
        fun b hb => absurd hb Std.HashSet.not_mem_empty
    · rw [Nat.sub_eq_zero_of_le (by omega)]
      rfl
  have hsize : s.toArray.size = s.length := List.size_toArray
  rw [searchAt, hsize, hsearch, ← List.map_findSome?, Option.map_map]
  rfl

end Regex

end FormRules.Pattern
