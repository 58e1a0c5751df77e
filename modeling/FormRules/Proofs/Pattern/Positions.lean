import FormRules.Pattern.Positions
import FormRules.Proofs.Pattern.Spans

/-!
# Recognition by sets of positions

Carrying a set of end positions back through an expression gives exactly the positions from which
the expression spans up to one of them: `Track.testBit_back`.  An expression therefore matches
within a subject if and only if it spans some part of it: `Regex.matchesWithin_iff`.
-/

namespace FormRules.Pattern

open Regex

namespace Track

variable {s : List Char} {i j k : Nat}

/-! ### The sets that a subject gives -/

theorem testBit_two_mul_add (b : Bool) (n i : Nat) :
    ((if b then 1 else 0) + 2 * n).testBit i = if i = 0 then b else n.testBit (i - 1) := by
  have hdiv : ((if b then 1 else 0) + 2 * n) / 2 = n := by
    cases b with
    | false => simp
    | true =>
      simp only [if_true]
      omega
  cases i with
  | zero =>
    rw [Nat.testBit_zero]
    cases b <;> simp
  | succ i => simp [Nat.testBit_succ, hdiv]

theorem testBit_positionsOf (p : Char → Bool) (s : List Char) (i : Nat) :
    (positionsOf p s).testBit i = s[i]?.any p := by
  induction s generalizing i with
  | nil => simp [positionsOf]
  | cons c s ih =>
    rw [positionsOf, testBit_two_mul_add]
    cases i with
    | zero => simp
    | succ i => simp [ih]

theorem testBit_placesOf (holds : Option Char → Option Char → Bool) (before : Option Char)
    (s : List Char) (i : Nat) :
    (placesOf holds before s).testBit i = true ↔
      i ≤ s.length ∧ holds (if i = 0 then before else s[i - 1]?) s[i]? = true := by
  induction s generalizing before i with
  | nil =>
    have h := testBit_two_mul_add (holds before none) 0 i
    rw [Nat.mul_zero, Nat.add_zero] at h
    rw [placesOf, h]
    cases i with
    | zero => simp
    | succ i => simp
  | cons c s ih =>
    rw [placesOf, testBit_two_mul_add]
    cases i with
    | zero => simp
    | succ i =>
      rw [if_neg (Nat.succ_ne_zero i), Nat.add_sub_cancel, ih]
      cases i with
      | zero => simp
      | succ i => simp

/-! ### Rounds -/

/-- The positions of a set lie in the subject. -/
def Within (s : List Char) (ends : Nat) : Prop := ∀ j, ends.testBit j = true → j ≤ s.length

/-- A step from sets of ends to sets of starts that follows an expression. -/
def Follows (s : List Char) (r : Regex) (step : Nat → Nat) : Prop :=
  ∀ ends, Within s ends → ∀ i, (step ends).testBit i = true ↔
    ∃ j, ends.testBit j = true ∧ r.Spans s i j

variable {r : Regex} {step : Nat → Nat} {ends : Nat}

theorem Follows.within (h : Follows s r step) (hends : Within s ends) : Within s (step ends) := by
  intro i hi
  obtain ⟨j, _, hr⟩ := (h ends hends i).1 hi
  have := hr.le
  omega

/-- Stopping early, where nothing changes any more, makes no difference. -/
theorem settle_succ (back : Nat → Nat) (fuel ends : Nat) :
    settle back (fuel + 1) ends = settle back fuel (back ends) := by
  rw [settle]
  split
  · rename_i h
    rw [h]
    cases fuel with
    | zero => rfl
    | succ fuel => rw [settle, if_pos h]
  · rfl

theorem testBit_settle (h : Follows s r step) (count : Nat) (hends : Within s ends) (i : Nat) :
    (settle step count ends).testBit i = true ↔
      ∃ j, ends.testBit j = true ∧ Rounds r s count i j := by
  induction count generalizing ends with
  | zero =>
    constructor
    · intro hi
      exact ⟨i, hi, .none i (hends i hi)⟩
    · rintro ⟨j, hj, hrounds⟩
      cases hrounds
      exact hj
  | succ count ih =>
    rw [settle_succ, ih (h.within hends)]
    constructor
    · rintro ⟨k, hk, hrounds⟩
      obtain ⟨j, hj, hr⟩ := (h ends hends k).1 hk
      exact ⟨j, hj, hrounds.append (.more 0 _ _ _ hr (.none j (hends j hj)))⟩
    · rintro ⟨j, hj, hrounds⟩
      obtain ⟨k, hfirst, hlast⟩ := hrounds.split
      cases hlast with
      | more _ _ l _ hr hrest =>
        cases hrest
        exact ⟨k, (h ends hends k).2 ⟨j, hj, hr⟩, hfirst⟩

/-- The positions from which up to `most` rounds lead to one of `ends`. -/
def IsReach (s : List Char) (r : Regex) (ends most starts : Nat) : Prop :=
  ∀ i, starts.testBit i = true ↔
    ∃ count j, count ≤ most ∧ ends.testBit j = true ∧ Rounds r s count i j

theorem IsReach.within {most starts : Nat} (h : IsReach s r ends most starts) :
    Within s starts := by
  intro i hi
  obtain ⟨_, _, _, _, hrounds⟩ := (h i).1 hi
  have := hrounds.le
  omega

theorem IsReach.next (h : Follows s r step) (hends : Within s ends) {most starts : Nat}
    (hreach : IsReach s r ends most starts) :
    IsReach s r ends (most + 1) (ends ||| step starts) := by
  intro i
  rw [Nat.testBit_or, Bool.or_eq_true, h starts hreach.within i]
  constructor
  · rintro (hi | ⟨k, hk, hr⟩)
    · exact ⟨0, i, Nat.zero_le _, hi, .none i (hends i hi)⟩
    · obtain ⟨count, j, hcount, hj, hrounds⟩ := (hreach k).1 hk
      exact ⟨count + 1, j, by omega, hj, .more _ _ _ _ hr hrounds⟩
  · rintro ⟨count, j, hcount, hj, hrounds⟩
    cases hrounds with
    | none => exact Or.inl hj
    | more count _ k _ hr hrest =>
      exact Or.inr ⟨k, (hreach k).2 ⟨count, j, by omega, hj, hrest⟩, hr⟩

theorem isReach_settle (h : Follows s r step) (hends : Within s ends) (more : Nat)
    {most starts : Nat} (hreach : IsReach s r ends most starts) :
    IsReach s r ends (most + more) (settle (fun starts => ends ||| step starts) more starts) := by
  induction more generalizing most starts with
  | zero => exact hreach
  | succ more ih =>
    rw [settle_succ, Nat.add_comm more 1, ← Nat.add_assoc]
    exact ih (hreach.next h hends)

/-- Rounds that match nothing can be left out, and the others are no more than the characters they
match. -/
theorem exists_rounds_le {count : Nat} (h : Rounds r s count i j) :
    ∃ fewer, fewer ≤ count ∧ fewer ≤ j - i ∧ Rounds r s fewer i j := by
  induction h with
  | none i h => exact ⟨0, Nat.le_refl 0, Nat.zero_le _, .none i h⟩
  | more count i k j hr hrest ih =>
    obtain ⟨fewer, hcount, hlength, hrounds⟩ := ih
    have hik := hr.le
    have hkj := hrest.le
    by_cases hmove : i = k
    · subst hmove
      exact ⟨fewer, by omega, hlength, hrounds⟩
    · exact ⟨fewer + 1, by omega, by omega, .more _ _ _ _ hr hrounds⟩

/-! ### Expressions -/

theorem follows_repeated (h : Follows s r step) (min : Nat) (max : Option Nat) (greedy : Bool) :
    Follows s (.repeated r min max greedy) fun ends =>
      settle step min (settle (fun starts => ends ||| step starts)
        (match max with
          | none => s.length + 1
          | some n => Nat.min (n - min) (s.length + 1)) ends) := by
  intro ends hends i
  have hstart : IsReach s r ends 0 ends := by
    intro i
    constructor
    · intro hi
      exact ⟨0, i, Nat.le_refl 0, hi, .none i (hends i hi)⟩
    · rintro ⟨count, j, hcount, hj, hrounds⟩
      cases hrounds with
      | none => exact hj
      | more => omega
  have hreach := fun more => isReach_settle h hends more hstart
  rw [testBit_settle h min (hreach _).within]
  constructor
  · rintro ⟨k, hk, hleast⟩
    obtain ⟨count, j, hcount, hj, hmore⟩ := (hreach _ k).1 hk
    refine ⟨j, hj, spans_repeated_iff_rounds.2 ⟨min + count, ⟨Nat.le_add_right _ _, ?_⟩,
      hleast.append hmore⟩⟩
    intro n hn
    subst hn
    have hle : count ≤ n - min := Nat.le_trans (by simpa using hcount) (Nat.min_le_left _ _)
    omega
  · rintro ⟨j, hj, hspans⟩
    obtain ⟨count, ⟨hmin, hmax⟩, hrounds⟩ := spans_repeated_iff_rounds.1 hspans
    rw [← Nat.add_sub_cancel' hmin] at hrounds
    obtain ⟨k, hleast, hmore⟩ := hrounds.split
    obtain ⟨fewer, hfewer, hlength, hrest⟩ := exists_rounds_le hmore
    have hk := hrest.le
    -- the bound on the steps is no bound on the rounds once the idle ones are left out
    refine ⟨k, (hreach _ k).2 ⟨fewer, j, ?_, hj, hrest⟩, hleast⟩
    cases max with
    | none =>
      show fewer ≤ 0 + (s.length + 1)
      omega
    | some n =>
      have hn := hmax n rfl
      have hle : fewer ≤ Nat.min (n - min) (s.length + 1) :=
        Nat.le_min.2 ⟨by omega, by omega⟩
      simpa using hle

/-- Carrying ends back through an expression follows the expression. -/
theorem testBit_back (r : Regex) : Follows s r (back s.length (ofRegex s r)) := by
  -- every case needs its ends within the subject, since a span ends there
  induction r with
  | empty =>
    intro ends hends i
    simp only [ofRegex, back, spans_empty]
    constructor
    · intro hi
      exact ⟨i, hi, rfl, hends i hi⟩
    · rintro ⟨j, hj, rfl, _⟩
      exact hj
  | chars set =>
    intro ends hends i
    simp only [ofRegex, back, Nat.testBit_and, Nat.testBit_shiftRight, testBit_positionsOf,
      Bool.and_eq_true, spans_chars, Option.any_eq_true]
    constructor
    · rintro ⟨⟨c, hc, hset⟩, hi⟩
      exact ⟨1 + i, hi, Nat.add_comm 1 i, c, hc, hset⟩
    · rintro ⟨j, hj, rfl, c, hc, hset⟩
      exact ⟨⟨c, hc, hset⟩, Nat.add_comm i 1 ▸ hj⟩
  | look l =>
    intro ends hends i
    simp only [ofRegex, back, Nat.testBit_and, Bool.and_eq_true, spans_look, testBit_placesOf]
    constructor
    · rintro ⟨⟨hle, hl⟩, hi⟩
      exact ⟨i, hi, rfl, hle, hl⟩
    · rintro ⟨j, hj, rfl, hle, hl⟩
      exact ⟨⟨hle, hl⟩, hj⟩
  | group index r ih =>
    intro ends hends i
    simp only [ofRegex, spans_group]
    exact ih ends hends i
  | scope r ih =>
    intro ends hends i
    simp only [ofRegex, spans_scope]
    exact ih ends hends i
  | seq a b iha ihb =>
    intro ends hends i
    simp only [ofRegex, back, spans_seq]
    rw [iha _ (ihb.within hends) i]
    constructor
    · rintro ⟨k, hk, ha⟩
      obtain ⟨j, hj, hb⟩ := (ihb ends hends k).1 hk
      exact ⟨j, hj, k, ha, hb⟩
    · rintro ⟨j, hj, k, ha, hb⟩
      exact ⟨k, (ihb ends hends k).2 ⟨j, hj, hb⟩, ha⟩
  | alt a b iha ihb =>
    intro ends hends i
    simp only [ofRegex, back, Nat.testBit_or, Bool.or_eq_true, spans_alt, iha ends hends i,
      ihb ends hends i]
    constructor
    · rintro (⟨j, hj, ha⟩ | ⟨j, hj, hb⟩)
      · exact ⟨j, hj, Or.inl ha⟩
      · exact ⟨j, hj, Or.inr hb⟩
    · rintro ⟨j, hj, ha | hb⟩
      · exact Or.inl ⟨j, hj, ha⟩
      · exact Or.inr ⟨j, hj, hb⟩
  | repeated r min max greedy ih =>
    intro ends hends i
    exact follows_repeated ih min max greedy ends hends i

end Track

namespace Regex

variable {s : List Char}

theorem testBit_allPositions (length j : Nat) :
    (allPositions length).testBit j = true ↔ j ≤ length := by
  rw [allPositions, Nat.testBit_two_pow_sub_one, decide_eq_true_eq]
  omega

/-- An expression matches within a subject exactly if it spans some part of it. -/
theorem matchesWithin_iff (r : Regex) (s : List Char) :
    r.matchesWithin s = true ↔ ∃ i j, r.Spans s i j := by
  have hall : Track.Within s (allPositions s.length) :=
    fun j hj => (testBit_allPositions s.length j).1 hj
  have hback := Track.testBit_back r (allPositions s.length) hall
  simp only [matchesWithin, startsFor, bne_iff_ne, ne_eq]
  constructor
  · intro hne
    obtain ⟨i, hi⟩ := Nat.exists_testBit_of_ne_zero hne
    obtain ⟨j, _, hr⟩ := (hback i).1 hi
    exact ⟨i, j, hr⟩
  · rintro ⟨i, j, hr⟩ hzero
    have hi := (hback i).2 ⟨j, (testBit_allPositions s.length j).2 hr.le.2, hr⟩
    rw [hzero, Nat.zero_testBit] at hi
    exact Bool.false_ne_true hi

theorem matchesWhole_iff (r : Regex) (s : List Char) :
    r.matchesWhole s = true ↔ r.MatchesWhole s := by
  have hend (j : Nat) : (2 ^ s.length).testBit j = true ↔ j = s.length := by
    rw [Nat.testBit_two_pow, decide_eq_true_eq]
    exact eq_comm
  have hback := Track.testBit_back r (2 ^ s.length) (fun j hj => Nat.le_of_eq ((hend j).1 hj)) 0
  simp only [matchesWhole, startsFor, matchesWhole_iff_spans]
  rw [hback]
  constructor
  · intro h
    obtain ⟨j, hj, hr⟩ := h
    rwa [(hend j).1 hj] at hr
  · intro h
    exact ⟨s.length, (hend _).2 rfl, h⟩

end Regex

end FormRules.Pattern
