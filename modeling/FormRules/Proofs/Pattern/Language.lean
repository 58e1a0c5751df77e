import FormRules.Proofs.Pattern.Spans

/-!
# Expressions without conditions on places

An expression that nowhere looks at the characters next to it matches a text wherever the text
stands.  Which texts such an expression matches as a whole then follows from its parts, and a change
of characters that stays within its sets keeps what it matches.
-/

namespace FormRules.Pattern.Regex

variable {s before text after : List Char}

/-- Whether the expression has no condition on places. -/
def isLookFree : Regex → Bool
  | empty => true
  | chars _ => true
  | look _ => false
  | group _ r => r.isLookFree
  | scope r => r.isLookFree
  | seq a b => a.isLookFree && b.isLookFree
  | alt a b => a.isLookFree && b.isLookFree
  | repeated r _ _ _ => r.isLookFree

theorem Matches.anywhere {r : Regex} (h : r.Matches before text after) (hfree : r.isLookFree = true)
    (before' after' : List Char) : r.Matches before' text after' := by
  induction h generalizing before' after' with
  | empty => exact .empty _ _
  | chars _ _ set c hc => exact .chars _ _ set c hc
  | look _ _ l => exact absurd hfree Bool.false_ne_true
  | group _ _ _ index r _ ih => exact .group _ _ _ index r (ih hfree _ _)
  | scope _ _ _ r _ ih => exact .scope _ _ _ r (ih hfree _ _)
  | seq _ first second _ a b _ _ iha ihb =>
    simp only [isLookFree, Bool.and_eq_true] at hfree
    exact .seq _ _ _ _ a b (iha hfree.1 _ _) (ihb hfree.2 _ _)
  | altLeft _ _ _ a b _ ih =>
    simp only [isLookFree, Bool.and_eq_true] at hfree
    exact .altLeft _ _ _ a b (ih hfree.1 _ _)
  | altRight _ _ _ a b _ ih =>
    simp only [isLookFree, Bool.and_eq_true] at hfree
    exact .altRight _ _ _ a b (ih hfree.2 _ _)
  | stop _ _ r max greedy => exact .stop _ _ r max greedy
  | round _ first second _ r min max greedy hmore _ _ ihr ihrest =>
    exact .round _ _ _ _ r min max greedy hmore (ihr hfree _ _) (ihrest hfree _ _)

/-! ### Beside conditions -/

theorem matches_of_isLookFree {r : Regex} (hfree : r.isLookFree = true) :
    r.Matches before text after ↔ r.MatchesWhole text :=
  ⟨fun h => h.anywhere hfree _ _, fun h => Matches.anywhere h hfree _ _⟩

theorem matches_seq {a b : Regex} (hfree : a.isLookFree = true) :
    (seq a b).Matches before text after ↔ ∃ first second, text = first ++ second ∧
      a.MatchesWhole first ∧ b.Matches (before ++ first) second after := by
  constructor
  · intro h
    cases h with
    | seq _ first second _ _ _ ha hb =>
      exact ⟨first, second, rfl, ha.anywhere hfree _ _, hb⟩
  · intro h
    obtain ⟨first, second, htext, ha, hb⟩ := h
    rw [htext]
    exact .seq _ _ _ _ _ _ (Matches.anywhere ha hfree _ _) hb

theorem matches_look_seq {l : Look} {b : Regex} :
    (seq (look l) b).Matches before text after ↔
      l.holds before.getLast? (text ++ after).head? = true ∧ b.Matches before text after := by
  constructor
  · intro h
    cases h with
    | seq _ first second _ _ _ ha hb =>
      cases ha with
      | look _ _ _ hl =>
        rw [List.append_nil] at hb
        exact ⟨hl, hb⟩
  · intro h
    have hb : b.Matches (before ++ []) text after := by
      rw [List.append_nil]
      exact h.2
    exact .seq before [] text after _ _ (.look _ _ l h.1) hb

/-! ### Whole texts -/

theorem matchesWhole_empty : empty.MatchesWhole s ↔ s = [] := by
  constructor
  · intro h
    cases h with
    | empty => rfl
  · intro h
    rw [h]
    exact .empty _ _

theorem matchesWhole_chars {set : CharSet} :
    (chars set).MatchesWhole s ↔ ∃ c, s = [c] ∧ set.mem c = true := by
  constructor
  · intro h
    cases h with
    | chars _ _ _ c hc => exact ⟨c, rfl, hc⟩
  · intro h
    obtain ⟨c, hs, hc⟩ := h
    rw [hs]
    exact .chars _ _ set c hc

theorem matchesWhole_char {c : Char} : (char c).MatchesWhole s ↔ s = [c] := by
  simp only [char, matchesWhole_chars, CharSet.mem_single, exists_eq_right]

theorem matchesWhole_alt {a b : Regex} :
    (alt a b).MatchesWhole s ↔ a.MatchesWhole s ∨ b.MatchesWhole s := by
  constructor
  · intro h
    cases h with
    | altLeft _ _ _ _ _ h => exact Or.inl h
    | altRight _ _ _ _ _ h => exact Or.inr h
  · intro h
    cases h with
    | inl h => exact .altLeft _ _ _ _ _ h
    | inr h => exact .altRight _ _ _ _ _ h

theorem matchesWhole_seq {a b : Regex} (hfree : (seq a b).isLookFree = true) :
    (seq a b).MatchesWhole s ↔
      ∃ first second, s = first ++ second ∧ a.MatchesWhole first ∧ b.MatchesWhole second := by
  simp only [isLookFree, Bool.and_eq_true] at hfree
  constructor
  · intro h
    cases h with
    | seq _ first second _ _ _ ha hb =>
      exact ⟨first, second, rfl, ha.anywhere hfree.1 _ _, hb.anywhere hfree.2 _ _⟩
  · intro h
    obtain ⟨first, second, hs, ha, hb⟩ := h
    rw [hs]
    exact .seq _ _ _ _ _ _ (Matches.anywhere ha hfree.1 _ _) (Matches.anywhere hb hfree.2 _ _)

theorem matchesWhole_seq_assoc {x y z : Regex} (hfree : (seqs [x, y, z]).isLookFree = true) :
    (seq (.seq x y) z).MatchesWhole s ↔ (seqs [x, y, z]).MatchesWhole s := by
  have hparts : x.isLookFree = true ∧ y.isLookFree = true ∧ z.isLookFree = true := by
    simpa [seqs, isLookFree] using hfree
  have hxy : (seq x y).isLookFree = true := by simp [isLookFree, hparts]
  have hyz : (seq y z).isLookFree = true := by simp [isLookFree, hparts]
  have hxyz : (seq (.seq x y) z).isLookFree = true := by simp [isLookFree, hparts]
  simp only [seqs] at hfree ⊢
  simp only [matchesWhole_seq hxyz, matchesWhole_seq hxy, matchesWhole_seq hfree,
    matchesWhole_seq hyz]
  constructor
  · intro h
    obtain ⟨_, last, hs, ⟨first, second, rfl, hx, hy⟩, hz⟩ := h
    exact ⟨first, second ++ last, by rw [hs, List.append_assoc], hx, second, last, rfl, hy, hz⟩
  · intro h
    obtain ⟨first, _, hs, hx, second, last, rfl, hy, hz⟩ := h
    exact ⟨first ++ second, last, by rw [hs, List.append_assoc], ⟨first, second, rfl, hx, hy⟩, hz⟩

theorem isLookFree_text (t : List Char) : (Regex.text t).isLookFree = true := by
  fun_induction Regex.text t with
  | case1 => rfl
  | case2 c => rfl
  | case3 c rest _ ih => exact ih

theorem matchesWhole_text {t : List Char} : (Regex.text t).MatchesWhole s ↔ s = t := by
  fun_induction Regex.text t generalizing s with
  | case1 => exact matchesWhole_empty
  | case2 c => exact matchesWhole_char
  | case3 c rest _ ih =>
    have hfree : (seq (char c) (Regex.text rest)).isLookFree = true := isLookFree_text rest
    rw [matchesWhole_seq hfree]
    simp [matchesWhole_char, ih]

/-! ### Texts with conditions between them -/

/-- A sequence is its first part and then the others, also where there are none. -/
theorem matches_seqs_cons {r : Regex} {rest : List Regex} :
    (seqs (r :: rest)).Matches before text after ↔
      (seq r (seqs rest)).Matches before text after := by
  cases rest with
  | nil =>
    constructor
    · intro h
      have hempty : (seq r empty).Matches before (text ++ []) after :=
        .seq _ _ _ _ _ _ h (.empty _ _)
      rwa [List.append_nil] at hempty
    · intro h
      cases h with
      | seq _ first second _ _ _ hr hempty =>
        cases hempty
        rwa [List.append_nil]
  | cons r' rest => exact Iff.rfl

theorem seqs_map_char (t : List Char) : seqs (t.map char) = Regex.text t := by
  fun_induction Regex.text t with
  | case1 => rfl
  | case2 c => rfl
  | case3 c rest hrest ih =>
    rw [← ih]
    cases rest with
    | nil => exact absurd rfl hrest
    | cons d rest => rfl

theorem matches_seqs_text {t : List Char} {rest : List Regex} :
    (seqs (t.map char ++ rest)).Matches before text after ↔
      ∃ second, text = t ++ second ∧ (seqs rest).Matches (before ++ t) second after := by
  induction t generalizing before text with
  | nil => simp
  | cons c t ih =>
    rw [List.map_cons, List.cons_append, matches_seqs_cons, matches_seq rfl]
    simp only [matchesWhole_char, ih]
    constructor
    · intro h
      obtain ⟨_, _, rfl, rfl, second, rfl, hrest⟩ := h
      exact ⟨second, rfl, by simpa using hrest⟩
    · intro h
      obtain ⟨second, rfl, hrest⟩ := h
      exact ⟨[c], t ++ second, rfl, rfl, second, rfl, by simpa using hrest⟩

/-- An expression with a text before it and a text behind it. -/
def between (r : Regex) (a b : List Char) : Regex := seqs (a.map char ++ r :: b.map char)

theorem matchesWhole_char_between {a b : List Char} {c : Char} :
    ((char c).between a b).MatchesWhole s ↔ s = a ++ c :: b := by
  have htext : (char c).between a b = Regex.text (a ++ c :: b) := by
    rw [← seqs_map_char, List.map_append, List.map_cons, between]
  rw [htext, matchesWhole_text]

/-- A condition between two texts is asked of the characters next to it. -/
theorem matchesWhole_look_between {a b : List Char} {l : Look} :
    ((look l).between a b).MatchesWhole s ↔
      s = a ++ b ∧ l.holds a.getLast? b.head? = true := by
  rw [MatchesWhole, between, matches_seqs_text]
  simp only [matches_seqs_cons, matches_look_seq, seqs_map_char, List.nil_append, List.append_nil,
    matches_of_isLookFree (isLookFree_text b), matchesWhole_text]
  constructor
  · intro h
    obtain ⟨_, rfl, hholds, rfl⟩ := h
    exact ⟨rfl, hholds⟩
  · intro h
    obtain ⟨rfl, hholds⟩ := h
    exact ⟨b, rfl, hholds, rfl⟩

/-! ### Rounds -/

theorem matchesWhole_repeated {r : Regex} {min : Nat} {max : Option Nat} {greedy : Bool}
    (hfree : r.isLookFree = true) :
    (repeated r min max greedy).MatchesWhole s ↔ (min = 0 ∧ s = []) ∨
      ((min ≠ 0 ∨ max ≠ some 0) ∧ ∃ first second, s = first ++ second ∧ r.MatchesWhole first ∧
        (repeated r (min - 1) (max.map (· - 1)) greedy).MatchesWhole second) := by
  constructor
  · intro h
    cases h with
    | stop => exact Or.inl ⟨rfl, rfl⟩
    | round _ first second _ _ _ _ _ hmore hr hrest =>
      exact Or.inr ⟨hmore, first, second, rfl, hr.anywhere hfree _ _,
        hrest.anywhere hfree _ _⟩
  · intro h
    obtain ⟨hmin, hs⟩ | ⟨hmore, first, second, hs, hr, hrest⟩ := h
    · subst hmin hs
      exact .stop _ _ _ _ _
    · rw [hs]
      exact .round _ _ _ _ _ _ _ _ hmore (Matches.anywhere hr hfree _ _)
        (Matches.anywhere hrest hfree _ _)

theorem matchesWhole_optional {r : Regex} (hfree : r.isLookFree = true) :
    (optional r).MatchesWhole s ↔ s = [] ∨ r.MatchesWhole s := by
  rw [optional, matchesWhole_repeated hfree]
  constructor
  · intro h
    obtain ⟨-, hs⟩ | ⟨-, first, second, hs, hr, hrest⟩ := h
    · exact Or.inl hs
    · rw [matchesWhole_repeated hfree] at hrest
      obtain ⟨-, hnil⟩ | ⟨hmore, -⟩ := hrest
      · rw [hs, hnil, List.append_nil]
        exact Or.inr hr
      · simp at hmore
  · intro h
    cases h with
    | inl hs => exact Or.inl ⟨rfl, hs⟩
    | inr hr =>
      have hnone : (repeated r 0 (some 0) true).MatchesWhole [] := .stop _ _ _ _ _
      exact Or.inr ⟨by simp, s, [], (List.append_nil s).symm, hr, hnone⟩

theorem Matches.exists_parts {r : Regex} (h : (star r).Matches before s after)
    (hfree : r.isLookFree = true) :
    ∃ parts, s = List.flatten parts ∧ ∀ part ∈ parts, r.MatchesWhole part := by
  -- The induction is on the match, whose rounds are again a star of the same expression.
  generalize hstar : star r = r' at h
  induction h with
  | stop => exact ⟨[], rfl, List.forall_mem_nil _⟩
  | round _ first second _ r' min max greedy _ hr _ _ ih =>
    injection hstar with hr' hmin hmax hgreedy
    subst hr' hmin hmax hgreedy
    obtain ⟨parts, hsecond, hparts⟩ := ih rfl
    refine ⟨first :: parts, ?_, List.forall_mem_cons.2 ⟨hr.anywhere hfree _ _, hparts⟩⟩
    rw [hsecond, List.flatten_cons]
  | _ => exact nomatch hstar

/-- Any number of rounds matches a text that is cut into parts which match. -/
theorem matchesWhole_star {r : Regex} (hfree : r.isLookFree = true) :
    (star r).MatchesWhole s ↔
      ∃ parts, s = List.flatten parts ∧ ∀ part ∈ parts, r.MatchesWhole part := by
  constructor
  · intro h
    exact h.exists_parts hfree
  · intro h
    obtain ⟨parts, hs, hparts⟩ := h
    rw [hs]
    clear hs
    induction parts with
    | nil => exact .stop _ _ _ _ _
    | cons part parts ih =>
      obtain ⟨hpart, hrest⟩ := List.forall_mem_cons.1 hparts
      exact (matchesWhole_repeated hfree).2
        (Or.inr ⟨by simp, part, parts.flatten, rfl, hpart, ih hrest⟩)

/-! ### Runs of characters -/

theorem allows_succ {min count : Nat} {max : Option Nat} :
    Allows min max (count + 1) ↔
      (min ≠ 0 ∨ max ≠ some 0) ∧ Allows (min - 1) (max.map (· - 1)) count := by
  cases max with
  | none =>
    simp only [Allows, Option.map_none, reduceCtorEq, false_implies, implies_true, and_true,
      ne_eq, not_false_eq_true, or_true, true_and]
    omega
  | some most =>
    simp only [Allows, Option.map_some, Option.some.injEq, forall_eq', ne_eq]
    omega

theorem allows_some {least most count : Nat} (h : least ≤ most) :
    Allows least (some most) count ↔ least ≤ count ∧ count ≤ most := by
  simp only [Allows, Option.some.injEq, forall_eq']
  omega

theorem matchesWhole_repeated_chars {set : CharSet} {min : Nat} {max : Option Nat}
    {greedy : Bool} : (repeated (chars set) min max greedy).MatchesWhole s ↔
      Allows min max s.length ∧ ∀ c ∈ s, set.mem c = true := by
  induction s generalizing min max with
  | nil =>
    rw [matchesWhole_repeated rfl]
    simp [matchesWhole_chars, Allows]
  | cons c s ih =>
    rw [matchesWhole_repeated rfl, List.length_cons, allows_succ, List.forall_mem_cons]
    constructor
    · intro h
      obtain ⟨-, hnil⟩ | ⟨hmore, first, second, hs, hfirst, hrest⟩ := h
      · exact absurd hnil (List.cons_ne_nil c s)
      · obtain ⟨d, hd, hset⟩ := matchesWhole_chars.1 hfirst
        rw [hd, List.singleton_append, List.cons.injEq] at hs
        rw [hs.1, hs.2]
        have hcount := ih.1 (hs.2 ▸ hrest)
        rw [hs.2] at hcount
        exact ⟨⟨hmore, hcount.1⟩, hset, hcount.2⟩
    · intro h
      obtain ⟨⟨hmore, hcount⟩, hset, hrest⟩ := h
      exact Or.inr ⟨hmore, [c], s, rfl, matchesWhole_chars.2 ⟨c, rfl, hset⟩,
        ih.2 ⟨hcount, hrest⟩⟩

theorem matchesWhole_star_chars {set : CharSet} :
    (star (chars set)).MatchesWhole s ↔ ∀ c ∈ s, set.mem c = true := by
  rw [star, matchesWhole_repeated_chars]
  simp [Allows]

theorem matchesWhole_plus_chars {set : CharSet} :
    (plus (chars set)).MatchesWhole s ↔ s ≠ [] ∧ ∀ c ∈ s, set.mem c = true := by
  rw [plus, matchesWhole_repeated_chars]
  simp [Allows, List.length_pos_iff, Nat.succ_le_iff]

/-! ### Other characters -/

/-- Whether a change of characters stays within every set of an expression. -/
def IsKeptBy (f : Char → Char) : Regex → Prop
  | empty => True
  | chars set => ∀ c, set.mem c = true → set.mem (f c) = true
  | look _ => True
  | group _ r => r.IsKeptBy f
  | scope r => r.IsKeptBy f
  | seq a b => a.IsKeptBy f ∧ b.IsKeptBy f
  | alt a b => a.IsKeptBy f ∧ b.IsKeptBy f
  | repeated r _ _ _ => r.IsKeptBy f

theorem Matches.map {r : Regex} {f : Char → Char} (h : r.Matches before text after)
    (hfree : r.isLookFree = true) (hkept : r.IsKeptBy f) :
    r.Matches (before.map f) (text.map f) (after.map f) := by
  induction h with
  | empty => exact .empty _ _
  | chars _ _ set c hc => exact .chars _ _ set (f c) (hkept c hc)
  | look _ _ l => exact absurd hfree Bool.false_ne_true
  | group _ _ _ index r _ ih => exact .group _ _ _ index r (ih hfree hkept)
  | scope _ _ _ r _ ih => exact .scope _ _ _ r (ih hfree hkept)
  | seq _ first second _ a b _ _ iha ihb =>
    simp only [isLookFree, Bool.and_eq_true] at hfree
    simp only [List.map_append] at iha ihb ⊢
    exact .seq _ _ _ _ a b (iha hfree.1 hkept.1) (ihb hfree.2 hkept.2)
  | altLeft _ _ _ a b _ ih =>
    simp only [isLookFree, Bool.and_eq_true] at hfree
    exact .altLeft _ _ _ a b (ih hfree.1 hkept.1)
  | altRight _ _ _ a b _ ih =>
    simp only [isLookFree, Bool.and_eq_true] at hfree
    exact .altRight _ _ _ a b (ih hfree.2 hkept.2)
  | stop _ _ r max greedy => exact .stop _ _ r max greedy
  | round _ first second _ r min max greedy hmore _ _ ihr ihrest =>
    simp only [List.map_append] at ihr ihrest ⊢
    exact .round _ _ _ _ r min max greedy hmore (ihr hfree hkept) (ihrest hfree hkept)

end FormRules.Pattern.Regex
