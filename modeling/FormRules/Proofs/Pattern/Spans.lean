import FormRules.Pattern.Regex

/-!
# Matches by position

`Regex.Spans r s i j` says that an expression matches what stands in a subject from position `i` to
position `j`.  There is one equivalence for each kind of expression; a repetition spans what a
number of rounds within its bounds span one after the other.
-/

namespace FormRules.Pattern

variable {s : List Char} {i j k : Nat}

/-- The character before a position. -/
def charBefore (s : List Char) (i : Nat) : Option Char := if i = 0 then none else s[i - 1]?

namespace Regex

/-- The expression matches the part of a subject from position `i` to position `j`. -/
def Spans (r : Regex) (s : List Char) (i j : Nat) : Prop :=
  ∃ before text after, s = before ++ text ++ after ∧ before.length = i ∧
    i + text.length = j ∧ r.Matches before text after

theorem Spans.le {r : Regex} (h : r.Spans s i j) : i ≤ j ∧ j ≤ s.length := by
  obtain ⟨before, text, after, rfl, rfl, rfl, _⟩ := h
  simp only [List.length_append]
  omega

theorem matchesWhole_iff_spans {r : Regex} : r.MatchesWhole s ↔ r.Spans s 0 s.length := by
  constructor
  · intro h
    exact ⟨[], s, [], by simp, rfl, by simp, h⟩
  · intro h
    obtain ⟨before, text, after, hs, hbefore, htext, hmatches⟩ := h
    have hnil : before = [] := List.length_eq_zero_iff.1 hbefore
    subst hnil
    have hlength : s.length = text.length + after.length := by
      rw [hs]
      simp only [List.nil_append, List.length_append]
    have hafter : after = [] := List.length_eq_zero_iff.1 (by omega)
    subst hafter
    have heq : s = text := by simpa using hs
    rw [heq]
    exact hmatches

theorem getLast?_take_eq_charBefore (h : i ≤ s.length) : (s.take i).getLast? = charBefore s i := by
  rw [List.getLast?_take, charBefore]
  split
  · rfl
  · rename_i hi
    have hlt : i - 1 < s.length := by omega
    rw [List.getElem?_eq_getElem hlt]
    rfl

/-! ### One equivalence for each kind of expression -/

theorem spans_empty : empty.Spans s i j ↔ j = i ∧ i ≤ s.length := by
  constructor
  · intro h
    have hle := h.le
    obtain ⟨before, text, after, _, _, hj, hm⟩ := h
    cases hm
    rw [List.length_nil] at hj
    omega
  · rintro ⟨rfl, hle⟩
    exact ⟨s.take j, [], s.drop j, by simp, by simp [hle], rfl, .empty _ _⟩

theorem spans_chars {set : CharSet} :
    (chars set).Spans s i j ↔ j = i + 1 ∧ ∃ c, s[i]? = some c ∧ set.mem c = true := by
  constructor
  · rintro ⟨before, text, after, rfl, rfl, rfl, hm⟩
    cases hm with
    | chars _ _ _ c hc => exact ⟨rfl, c, by simp, hc⟩
  · rintro ⟨rfl, c, hs, hc⟩
    obtain ⟨hlt, hget⟩ := List.getElem?_eq_some_iff.1 hs
    refine ⟨s.take i, [c], s.drop (i + 1), ?_, ?_, rfl, .chars _ _ _ _ hc⟩
    · rw [List.append_assoc, List.singleton_append, ← hget, ← List.drop_eq_getElem_cons hlt,
        List.take_append_drop]
    · rw [List.length_take]
      omega

theorem spans_look {l : Look} :
    (look l).Spans s i j ↔ j = i ∧ i ≤ s.length ∧ l.holds (charBefore s i) s[i]? = true := by
  constructor
  · intro h
    have hle := h.le
    obtain ⟨before, text, after, rfl, rfl, hj, hm⟩ := h
    cases hm with
    | look _ _ _ hl =>
      rw [List.length_nil] at hj
      refine ⟨hj.symm, by omega, ?_⟩
      rw [← getLast?_take_eq_charBefore (by omega), ← List.head?_drop]
      simpa using hl
  · rintro ⟨rfl, hle, hl⟩
    refine ⟨s.take j, [], s.drop j, by simp, by simp [hle], rfl, .look _ _ _ ?_⟩
    rw [getLast?_take_eq_charBefore hle, List.head?_drop]
    exact hl

theorem spans_group {index : Nat} {r : Regex} : (group index r).Spans s i j ↔ r.Spans s i j := by
  constructor
  · rintro ⟨before, text, after, hs, hi, hj, hm⟩
    cases hm with
    | group _ _ _ _ _ hr => exact ⟨before, text, after, hs, hi, hj, hr⟩
  · rintro ⟨before, text, after, hs, hi, hj, hr⟩
    exact ⟨before, text, after, hs, hi, hj, .group _ _ _ _ _ hr⟩

theorem spans_scope {r : Regex} : (scope r).Spans s i j ↔ r.Spans s i j := by
  constructor
  · rintro ⟨before, text, after, hs, hi, hj, hm⟩
    cases hm with
    | scope _ _ _ _ hr => exact ⟨before, text, after, hs, hi, hj, hr⟩
  · rintro ⟨before, text, after, hs, hi, hj, hr⟩
    exact ⟨before, text, after, hs, hi, hj, .scope _ _ _ _ hr⟩

/-- Two stretches that meet in a position cut the subject in the same place. -/
theorem exists_cut {before text after before' text' after' : List Char}
    (hs : s = before ++ text ++ after) (hs' : s = before' ++ text' ++ after')
    (hmeet : before.length + text.length = before'.length) :
    before' = before ++ text ∧ after = text' ++ after' := by
  have heq : (before ++ text) ++ after = before' ++ (text' ++ after') := by
    rw [← hs, hs', List.append_assoc]
  obtain ⟨hleft, hright⟩ := List.append_inj heq (by rw [List.length_append, hmeet])
  exact ⟨hleft.symm, hright⟩

theorem spans_seq {a b : Regex} :
    (seq a b).Spans s i j ↔ ∃ k, a.Spans s i k ∧ b.Spans s k j := by
  constructor
  · rintro ⟨before, text, after, rfl, rfl, rfl, hm⟩
    cases hm with
    | seq _ first second _ _ _ ha hb =>
      refine ⟨before.length + first.length, ⟨before, first, second ++ after, ?_, rfl, rfl, ha⟩,
        ⟨before ++ first, second, after, ?_, List.length_append, ?_, hb⟩⟩
      · simp only [List.append_assoc]
      · simp only [List.append_assoc]
      · rw [List.length_append]
        omega
  · rintro ⟨k, ⟨before, first, after, hs, rfl, rfl, ha⟩, before', second, after', hs', hk, rfl, hb⟩
    obtain ⟨rfl, rfl⟩ := exists_cut hs hs' hk.symm
    refine ⟨before, first ++ second, after', ?_, rfl, ?_, .seq _ _ _ _ _ _ ha hb⟩
    · rw [hs']
      simp only [List.append_assoc]
    · rw [List.length_append]
      omega

theorem spans_alt {a b : Regex} : (alt a b).Spans s i j ↔ a.Spans s i j ∨ b.Spans s i j := by
  constructor
  · rintro ⟨before, text, after, hs, hi, hj, hm⟩
    cases hm with
    | altLeft _ _ _ _ _ ha => exact Or.inl ⟨before, text, after, hs, hi, hj, ha⟩
    | altRight _ _ _ _ _ hb => exact Or.inr ⟨before, text, after, hs, hi, hj, hb⟩
  · rintro (⟨before, text, after, hs, hi, hj, ha⟩ | ⟨before, text, after, hs, hi, hj, hb⟩)
    · exact ⟨before, text, after, hs, hi, hj, .altLeft _ _ _ _ _ ha⟩
    · exact ⟨before, text, after, hs, hi, hj, .altRight _ _ _ _ _ hb⟩

theorem spans_repeated {r : Regex} {min : Nat} {max : Option Nat} {greedy : Bool} :
    (repeated r min max greedy).Spans s i j ↔ (min = 0 ∧ j = i ∧ i ≤ s.length) ∨
      ((min ≠ 0 ∨ max ≠ some 0) ∧ ∃ k, r.Spans s i k ∧
        (repeated r (min - 1) (max.map (· - 1)) greedy).Spans s k j) := by
  constructor
  · intro h
    have hle := h.le
    obtain ⟨before, text, after, rfl, rfl, rfl, hm⟩ := h
    cases hm with
    | stop => exact Or.inl ⟨rfl, rfl, by simp⟩
    | round _ first second _ _ _ _ _ hmore hr hrest =>
      refine Or.inr ⟨hmore, before.length + first.length,
        ⟨before, first, second ++ after, ?_, rfl, rfl, hr⟩,
        ⟨before ++ first, second, after, ?_, List.length_append, ?_, hrest⟩⟩
      · simp only [List.append_assoc]
      · simp only [List.append_assoc]
      · rw [List.length_append]
        omega
  · rintro (⟨rfl, rfl, hle⟩ | ⟨hmore, k, ⟨before, first, after, hs, rfl, rfl, hr⟩, before', second,
      after', hs', hk, rfl, hrest⟩)
    · exact ⟨s.take j, [], s.drop j, by simp, by simp [hle], rfl, .stop _ _ _ _ _⟩
    · obtain ⟨rfl, rfl⟩ := exists_cut hs hs' hk.symm
      refine ⟨before, first ++ second, after', ?_, rfl, ?_, .round _ _ _ _ _ _ _ _ hmore hr hrest⟩
      · rw [hs']
        simp only [List.append_assoc]
      · rw [List.length_append]
        omega

/-! ### Rounds -/

/-- A number of rounds of an expression, one after the other. -/
inductive Rounds (r : Regex) (s : List Char) : Nat → Nat → Nat → Prop
  | none (i : Nat) (h : i ≤ s.length) : Rounds r s 0 i i
  | more (count i k j : Nat) (hr : r.Spans s i k) (hrest : Rounds r s count k j) :
    Rounds r s (count + 1) i j

namespace Rounds

variable {r : Regex} {m n : Nat}

theorem le (h : Rounds r s n i j) : i ≤ j ∧ j ≤ s.length := by
  induction h with
  | none i h => exact ⟨Nat.le_refl i, h⟩
  | more count i k j hr _ ih =>
    have := hr.le
    omega

theorem append (hm : Rounds r s m i k) (hn : Rounds r s n k j) : Rounds r s (m + n) i j := by
  induction hm with
  | none i h => rwa [Nat.zero_add]
  | more count i l k hr _ ih =>
    rw [Nat.add_right_comm]
    exact .more _ _ _ _ hr (ih hn)

theorem split (h : Rounds r s (m + n) i j) : ∃ k, Rounds r s m i k ∧ Rounds r s n k j := by
  induction m generalizing i with
  | zero =>
    rw [Nat.zero_add] at h
    have hle := h.le
    exact ⟨i, .none i (by omega), h⟩
  | succ m ih =>
    rw [Nat.add_right_comm] at h
    cases h with
    | more _ _ l _ hr hrest =>
      obtain ⟨k, hm, hn⟩ := ih hrest
      exact ⟨k, .more _ _ _ _ hr hm, hn⟩

end Rounds

/-- The numbers of rounds that a repetition allows: at least `min`, and beyond that no more than
`max`. -/
def Allows (min : Nat) (max : Option Nat) (count : Nat) : Prop :=
  min ≤ count ∧ ∀ n, max = some n → count ≤ min ∨ count ≤ n

theorem spans_repeated_iff_rounds {r : Regex} {min : Nat} {max : Option Nat} {greedy : Bool} :
    (repeated r min max greedy).Spans s i j ↔
      ∃ count, Allows min max count ∧ Rounds r s count i j := by
  constructor
  · rintro ⟨before, text, after, rfl, rfl, rfl, hm⟩
    generalize hr : repeated r min max greedy = r' at hm
    induction hm generalizing min max with
    | stop before after =>
      injection hr with _ hmin _ _
      subst hmin
      exact ⟨0, ⟨Nat.le_refl 0, fun n _ => Or.inl (Nat.le_refl 0)⟩, .none _ (by simp)⟩
    | round before first second after r' min' max' greedy' hmore hfirst _ _ ih =>
      injection hr with hr hmin hmax hgreedy
      subst hr hmin hmax hgreedy
      obtain ⟨count, ⟨hleast, hmost⟩, hrounds⟩ := ih rfl
      refine ⟨count + 1, ⟨by omega, fun n hn => ?_⟩, .more _ _ (before.length + first.length) _
        ⟨before, first, second ++ after, by simp, rfl, rfl, hfirst⟩ ?_⟩
      · subst hn
        have hle := hmost (n - 1) rfl
        have hpos : min ≠ 0 ∨ n ≠ 0 := hmore.imp_right fun h h0 => h (by rw [h0])
        omega
      · simpa only [List.append_assoc, List.length_append, Nat.add_assoc] using hrounds
    | _ => exact nomatch hr
  · rintro ⟨count, hallows, hrounds⟩
    induction hrounds generalizing min max with
    | none i h => exact spans_repeated.2 (Or.inl ⟨Nat.le_zero.1 hallows.1, rfl, h⟩)
    | more count i k j hr _ ih =>
      obtain ⟨hmin, hmax⟩ := hallows
      refine spans_repeated.2 (Or.inr ⟨?_, k, hr, ih ⟨by omega, fun n hn => ?_⟩⟩)
      · by_cases hmax0 : max = some 0
        · have hle := hmax 0 hmax0
          exact Or.inl (by omega)
        · exact Or.inr hmax0
      · obtain ⟨m, hm, rfl⟩ := Option.map_eq_some_iff.1 hn
        have hle := hmax m hm
        omega

end Regex

end FormRules.Pattern
