import FormRules.Proofs.Pattern.Search

/-!
# What the search remembers does not change what it finds

`Probes` is the depth-first search without its memory: it enters an instruction as often as it comes
there.  `explore_eq` says that the search with memory finds the same.  A mark that was visited is
either dead, so that passing it over loses nothing, or it lies on the way to the branch that
accepts; then the search has come nearer to that branch since, and cannot meet the mark again.
-/

namespace FormRules.Pattern

open Program

variable {program : Array Instruction} {s : List Char} {k : Nat} {pending rest : List Branch}
variable {slots : Array (Option Nat)} {found : Option (Array (Option Nat))}

/-- A search without memory, with the number of branches that it takes up before it ends. -/
inductive Probes (program : Array Instruction) (s : List Char) :
    Nat → List Branch → Option (Array (Option Nat)) → Prop
  | nothing : Probes program s 0 [] none
  | accept (b : Branch) (rest : List Branch) (h : program[b.instruction]? = some .accept) :
    Probes program s 0 (b :: rest) (some b.slots)
  | leave (k : Nat) (b : Branch) (rest : List Branch) (found : Option (Array (Option Nat)))
    (h : program[b.instruction]? = none) (hrest : Probes program s k rest found) :
    Probes program s (k + 1) (b :: rest) found
  | enter (k : Nat) (b : Branch) (rest : List Branch) (found : Option (Array (Option Nat)))
    (instruction : Instruction) (h : program[b.instruction]? = some instruction)
    (hne : instruction ≠ .accept)
    (hrest : Probes program s k (b.successors s.toArray instruction ++ rest) found) :
    Probes program s (k + 1) (b :: rest) found

namespace Probes

theorem unique {k' : Nat} {found' : Option (Array (Option Nat))}
    (h : Probes program s k pending found) (h' : Probes program s k' pending found') :
    k = k' ∧ found = found' := by
  induction h generalizing k' with
  | nothing =>
    cases h'
    exact ⟨rfl, rfl⟩
  | accept b rest haccept =>
    cases h' with
    | accept => exact ⟨rfl, rfl⟩
    | leave _ _ _ _ hnone => exact nomatch haccept.symm.trans hnone
    | enter _ _ _ _ _ hsome hne => exact absurd (Option.some.inj (hsome.symm.trans haccept)) hne
  | leave k b rest found hnone _ ih =>
    cases h' with
    | accept _ _ haccept => exact nomatch haccept.symm.trans hnone
    | leave _ _ _ _ _ hrest =>
      obtain ⟨hk, hfound⟩ := ih hrest
      exact ⟨congrArg (· + 1) hk, hfound⟩
    | enter _ _ _ _ _ hsome => exact nomatch hsome.symm.trans hnone
  | enter k b rest found instruction hsome hne _ ih =>
    cases h' with
    | accept _ _ haccept => exact absurd (Option.some.inj (hsome.symm.trans haccept)) hne
    | leave _ _ _ _ hnone => exact nomatch hsome.symm.trans hnone
    | enter _ _ _ _ _ hother _ hrest =>
      obtain rfl := Option.some.inj (hsome.symm.trans hother)
      obtain ⟨hk, hfound⟩ := ih hrest
      exact ⟨congrArg (· + 1) hk, hfound⟩

/-- A search ends within the first branches, whatever comes after them, or goes through them. -/
theorem split {a b : List Branch} (h : Probes program s k (a ++ b) found) :
    (found.isSome ∧ ∀ other, Probes program s k (a ++ other) found) ∨
      ∃ m n, k = m + n ∧ Probes program s m a none ∧ Probes program s n b found := by
  generalize hpending : a ++ b = pending at h
  induction h generalizing a with
  | nothing =>
    obtain ⟨rfl, rfl⟩ := List.append_eq_nil_iff.1 hpending
    exact Or.inr ⟨0, 0, rfl, .nothing, .nothing⟩
  | accept c rest haccept =>
    cases a with
    | nil =>
      subst hpending
      exact Or.inr ⟨0, 0, rfl, .nothing, .accept _ _ haccept⟩
    | cons d a =>
      obtain ⟨rfl, rfl⟩ := List.cons.inj hpending
      exact Or.inl ⟨rfl, fun other => .accept _ _ haccept⟩
  | leave k c rest found hnone hrest ih =>
    cases a with
    | nil =>
      subst hpending
      exact Or.inr ⟨0, k + 1, (Nat.zero_add _).symm, .nothing, .leave _ _ _ _ hnone hrest⟩
    | cons d a =>
      obtain ⟨rfl, rfl⟩ := List.cons.inj hpending
      rcases ih rfl with ⟨hsome, hends⟩ | ⟨m, n, rfl, ha, hb⟩
      · exact Or.inl ⟨hsome, fun other => .leave _ _ _ _ hnone (hends other)⟩
      · exact Or.inr ⟨m + 1, n, Nat.add_right_comm m n 1, .leave _ _ _ _ hnone ha, hb⟩
  | enter k c rest found instruction hsome hne hrest ih =>
    cases a with
    | nil =>
      subst hpending
      exact Or.inr ⟨0, k + 1, (Nat.zero_add _).symm, .nothing, .enter _ _ _ _ _ hsome hne hrest⟩
    | cons d a =>
      obtain ⟨rfl, rfl⟩ := List.cons.inj hpending
      rcases ih (List.append_assoc _ _ _) with ⟨hfound, hends⟩ | ⟨m, n, rfl, ha, hb⟩
      · refine Or.inl ⟨hfound, fun other => .enter _ _ _ _ _ hsome hne ?_⟩
        have hother := hends other
        rwa [List.append_assoc] at hother
      · exact Or.inr ⟨m + 1, n, Nat.add_right_comm m n 1, .enter _ _ _ _ _ hsome hne ha, hb⟩

/-- Whether a search finds something depends on the marks only, and so does its length. -/
theorem of_marks {others : List Branch} (h : Probes program s k pending found)
    (hmarks : others.map Branch.mark = pending.map Branch.mark) :
    ∃ found', Probes program s k others found' ∧ found'.isSome = found.isSome := by
  induction h generalizing others with
  | nothing =>
    rw [List.map_nil, List.map_eq_nil_iff] at hmarks
    exact ⟨none, hmarks ▸ .nothing, rfl⟩
  | accept b rest haccept =>
    obtain ⟨c, others, rfl, hmark, _⟩ := List.map_eq_cons_iff.1 hmarks
    refine ⟨some c.slots, .accept _ _ ?_, rfl⟩
    rw [show c.instruction = b.instruction from congrArg Prod.fst hmark, haccept]
  | leave k b rest found hnone _ ih =>
    obtain ⟨c, others, rfl, hmark, hothers⟩ := List.map_eq_cons_iff.1 hmarks
    obtain ⟨found', hrest, hsame⟩ := ih hothers
    refine ⟨found', .leave _ _ _ _ ?_ hrest, hsame⟩
    rw [show c.instruction = b.instruction from congrArg Prod.fst hmark, hnone]
  | enter k b rest found instruction hsome hne _ ih =>
    obtain ⟨c, others, rfl, hmark, hothers⟩ := List.map_eq_cons_iff.1 hmarks
    have hmarks' : (c.successors s.toArray instruction ++ others).map Branch.mark =
        (b.successors s.toArray instruction ++ rest).map Branch.mark := by
      rw [List.map_append, List.map_append, Branch.map_mark_successors hmark, hothers]
    obtain ⟨found', hrest, hsame⟩ := ih hmarks'
    refine ⟨found', .enter _ _ _ _ instruction ?_ hne hrest, hsame⟩
    rw [show c.instruction = b.instruction from congrArg Prod.fst hmark, hsome]

end Probes

/-! ### The invariant of the memory -/

/-- A mark that is dead, or one that accepts, but from farther away than the search is. -/
def IsSettled (program : Array Instruction) (s : List Char) (k : Nat)
    (found : Option (Array (Option Nat))) (b : Branch) : Prop :=
  (∃ m, Probes program s m [b] none) ∨
    found.isSome ∧ ∃ m slots, k < m ∧ Probes program s m [b] (some slots)

theorem IsSettled.of_mark {b c : Branch} (h : IsSettled program s k found b)
    (hmark : c.mark = b.mark) : IsSettled program s k found c := by
  have hmarks : [c].map Branch.mark = [b].map Branch.mark := congrArg (fun mark => [mark]) hmark
  obtain ⟨m, hdead⟩ | ⟨hfound, m, slots, hlt, hlive⟩ := h
  · obtain ⟨none', hdead', hsame⟩ := hdead.of_marks hmarks
    cases none' with
    | none => exact Or.inl ⟨m, hdead'⟩
    | some => cases hsame
  · obtain ⟨some', hlive', hsame⟩ := hlive.of_marks hmarks
    cases some' with
    | none => cases hsame
    | some slots' => exact Or.inr ⟨hfound, m, slots', hlt, hlive'⟩

theorem IsSettled.mono {b : Branch} {n : Nat} (h : IsSettled program s k found b) (hle : n ≤ k) :
    IsSettled program s n found b :=
  h.imp_right fun ⟨hfound, m, slots, hlt, hlive⟩ =>
    ⟨hfound, m, slots, Nat.lt_of_le_of_lt hle hlt, hlive⟩

def AllSettled (program : Array Instruction) (s : List Char) (k : Nat)
    (found : Option (Array (Option Nat))) (visited : Visited) : Prop :=
  ∀ b : Branch, b.mark ∈ visited → IsSettled program s k found b

theorem AllSettled.insert {visited : Visited} {b : Branch} {n : Nat}
    (h : AllSettled program s k found visited) (hle : n ≤ k)
    (hb : IsSettled program s n found b) :
    AllSettled program s n found (visited.insert b.mark) := by
  intro c hc
  rw [Std.HashSet.mem_insert, beq_iff_eq] at hc
  rcases hc with hmark | hold
  · exact hb.of_mark hmark.symm
  · exact (h c hold).mono hle

/-- A settled branch that a search takes up is dead. -/
theorem Probes.of_settled {b : Branch} (h : Probes program s k (b :: rest) found)
    (hb : IsSettled program s k found b) : ∃ n ≤ k, Probes program s n rest found := by
  have hsplit := Probes.split (a := [b]) h
  obtain ⟨hfound, hends⟩ | ⟨m, n, rfl, _, hrest⟩ := hsplit
  · have hhere := hends []
    obtain ⟨m, hdead⟩ | ⟨_, m, slots, hlt, hlive⟩ := hb
    · rw [(hhere.unique hdead).2] at hfound
      cases hfound
    · exact absurd (hhere.unique hlive).1 (Nat.ne_of_lt hlt)
  · exact ⟨n, Nat.le_add_left n m, hrest⟩

theorem Probes.isSettled {b : Branch} (h : Probes program s (k + 1) (b :: rest) found) :
    IsSettled program s k found b := by
  have hsplit := Probes.split (a := [b]) h
  obtain ⟨hfound, hends⟩ | ⟨m, n, _, hdead, _⟩ := hsplit
  · obtain ⟨slots, rfl⟩ := Option.isSome_iff_exists.1 hfound
    exact Or.inr ⟨hfound, k + 1, slots, Nat.lt_succ_self k, hends []⟩
  · exact Or.inl ⟨m, hdead⟩

theorem explore_eq {fuel : Nat} {visited : Visited} (h : Probes program s k pending found)
    (hsettled : AllSettled program s k found visited) (hpos : ∀ b ∈ pending, b.position ≤ s.length)
    (hfuel : 2 * (unvisited program s visited).length + pending.length ≤ fuel) :
    ∃ visited', explore program s.toArray fuel visited pending = (found, visited') ∧
      (found = none → AllSettled program s 0 none visited') := by
  fun_induction explore program s.toArray fuel visited pending generalizing k with
  | case1 visited pending =>
    obtain rfl := List.length_eq_zero_iff.1 (by omega : pending.length = 0)
    cases h
    exact ⟨visited, rfl, fun _ => hsettled⟩
  | case2 fuel visited =>
    cases h
    exact ⟨visited, rfl, fun _ => hsettled⟩
  | case3 fuel visited branch rest mark hvisited =>
    rename_i ih
    obtain ⟨n, hle, hrest⟩ := h.of_settled (hsettled _ (Std.HashSet.mem_iff_contains.2 hvisited))
    exact ih hrest (fun b hb => (hsettled b hb).mono hle)
      (fun b hb => hpos b (List.mem_cons_of_mem _ hb))
      (by rw [List.length_cons] at hfuel; omega)
  | case4 fuel visited branch rest mark hvisited entered hnone =>
    rename_i ih
    have hle : (unvisited program s entered).length ≤ _ := length_unvisited_insert_le visited _
    cases h with
    | accept _ _ haccept => exact absurd (haccept.symm.trans hnone) (Option.some_ne_none _)
    | enter _ _ _ _ _ hsome => exact absurd (hsome.symm.trans hnone) (Option.some_ne_none _)
    | leave k _ _ _ _ hrest =>
      have hbranch : IsSettled program s k found branch := Or.inl ⟨1, .leave _ _ _ _ hnone .nothing⟩
      exact ih hrest (hsettled.insert (Nat.le_succ k) hbranch)
        (fun b hb => hpos b (List.mem_cons_of_mem _ hb))
        (by rw [List.length_cons] at hfuel; omega)
  | case5 fuel visited branch rest mark hvisited entered =>
    rename_i haccept
    cases h with
    | accept => exact ⟨_, rfl, fun hnone => absurd hnone (Option.some_ne_none _)⟩
    | leave _ _ _ _ hnone => exact absurd (haccept.symm.trans hnone) (Option.some_ne_none _)
    | enter _ _ _ _ _ hsome hne => exact absurd (Option.some.inj (hsome.symm.trans haccept)) hne
  | case6 fuel visited branch rest mark hvisited entered instruction hne hsome =>
    rename_i ih
    have hbpos := hpos branch List.mem_cons_self
    have hnew : branch.mark ∉ visited := fun hmem =>
      hvisited (Std.HashSet.mem_iff_contains.1 hmem)
    have hlt : (unvisited program s entered).length < _ :=
      length_unvisited_insert_lt hsome hbpos hnew
    have htwo := Branch.length_successors_le (s := s) branch instruction
    have hbranch := h
    cases h with
    | accept _ _ haccept => exact absurd (Option.some.inj (hsome.symm.trans haccept)) hne
    | leave _ _ _ _ hnone => exact absurd (hsome.symm.trans hnone) (Option.some_ne_none _)
    | enter k _ _ _ other hother _ hrest =>
      obtain rfl := Option.some.inj (hsome.symm.trans hother)
      refine ih hrest (hsettled.insert (Nat.le_succ k) hbranch.isSettled) (fun b hb => ?_) ?_
      · rcases List.mem_append.1 hb with hb | hb
        · exact Branch.position_le_of_mem_successors hb hbpos
        · exact hpos b (List.mem_cons_of_mem _ hb)
      · rw [List.length_cons] at hfuel
        rw [List.length_append]
        omega

/-! ### From each position on -/

theorem AllSettled.of_none {visited : Visited} (h : AllSettled program s 0 none visited) :
    AllSettled program s k found visited := by
  intro b hb
  obtain hdead | ⟨hnone, _⟩ := h b hb
  · exact Or.inl hdead
  · cases hnone

theorem length_unvisited_le (visited : Visited) :
    (unvisited program s visited).length ≤ program.size * (s.length + 1) := by
  rw [← length_marks]
  exact List.length_filter_le _ _

theorem searchFrom_eq {results : Nat → Option (Array (Option Nat))} {count start : Nat}
    {visited : Visited} (hcount : start + count ≤ s.length + 1)
    (h : ∀ i, start ≤ i → i < start + count → ∃ k, Probes program s k [⟨0, i, slots⟩] (results i))
    (hsettled : AllSettled program s 0 none visited) :
    searchFrom program s.toArray slots count start visited =
      (List.range' start count).findSome? results := by
  induction count generalizing start visited with
  | zero => rfl
  | succ count ih =>
    obtain ⟨k, hprobes⟩ := h start (Nat.le_refl start) (by omega)
    have hle : (unvisited program s visited).length ≤ _ := length_unvisited_le visited
    have hsize : s.toArray.size = s.length := List.size_toArray
    have hpos : ∀ b ∈ [(⟨0, start, slots⟩ : Branch)], b.position ≤ s.length := by
      intro b hb
      rw [List.mem_singleton.1 hb]
      show start ≤ s.length
      omega
    have hfuel : 2 * (unvisited program s visited).length + [(⟨0, start, slots⟩ : Branch)].length ≤
        2 * (program.size * (s.toArray.size + 1)) + 2 := by
      rw [List.length_singleton, hsize]
      omega
    obtain ⟨visited', hexplore, hnone⟩ := explore_eq hprobes hsettled.of_none hpos hfuel
    rw [searchFrom, hexplore, List.range'_succ, List.findSome?_cons]
    cases hresult : results start with
    | some slots => rfl
    | none =>
      exact ih (by omega) (fun i hi hlt => h i (by omega) (by omega)) (hnone hresult)

end FormRules.Pattern
