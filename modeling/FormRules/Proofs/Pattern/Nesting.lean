import FormRules.Pattern.Delimited
import Mathlib.Data.List.Basic
import Mathlib.Data.List.Induction

/-!
# Where a delimited pattern is cut

The body of a delimited pattern ends at the first closing delimiter that no backslash takes along
and that closes no nested pair.  `depth` counts how many pairs are open behind a text; the counter
of the scan is that depth as long as the body goes on, so it never has to go below zero.
`split?_outcomes` says what a text is cut into, and which fault is found where it cannot be cut.
-/

namespace FormRules.Pattern.Delimited

open FormRules.Text

variable {opening c : Char} {s first body rest : List Char}

/-! ### Backslashes and depth -/

/-- What a character leaves pending: a backslash that is not itself taken along waits for the next
character. -/
def waits (pending : Bool) (c : Char) : Bool := !pending && c == '\\'

/-- Whether a text ends in a backslash that waits for the next character. -/
def isPending (s : List Char) : Bool := s.foldl waits false

/-- The characters that no backslash takes along. -/
def unescaped (pending : Bool) : List Char → List Char
  | [] => []
  | c :: rest => if pending then unescaped (waits pending c) rest
      else c :: unescaped (waits pending c) rest

/-- How many pairs of delimiters are open behind a text.  A delimiter that closes itself opens no
pairs. -/
def depth (opening : Char) (s : List Char) : Int :=
  if closing opening = opening then 0
  else (unescaped false s).count opening - (unescaped false s).count (closing opening)

/-- What one character that no backslash takes along adds to the depth. -/
def turn (opening c : Char) : Int :=
  if closing opening = opening then 0
  else if c = opening then 1
  else if c = closing opening then -1
  else 0

theorem isPending_concat (s : List Char) (c : Char) :
    isPending (s ++ [c]) = waits (isPending s) c := by
  rw [isPending, List.foldl_append]
  rfl

theorem unescaped_concat (pending : Bool) (s : List Char) (c : Char) :
    unescaped pending (s ++ [c]) =
      unescaped pending s ++ if s.foldl waits pending then [] else [c] := by
  induction s generalizing pending with
  | nil => cases pending <;> rfl
  | cons d s ih =>
    rw [List.cons_append, unescaped, unescaped, ih, List.foldl_cons]
    split
    · rfl
    · rfl

theorem depth_concat (opening : Char) (s : List Char) (c : Char) :
    depth opening (s ++ [c]) = depth opening s + if isPending s then 0 else turn opening c := by
  unfold depth turn isPending
  rw [unescaped_concat]
  by_cases hself : closing opening = opening
  · simp only [if_pos hself, ite_self, Int.add_zero]
  · simp only [if_neg hself]
    cases s.foldl waits false with
    | true => simp
    | false =>
      by_cases hopen : c = opening
      · subst hopen
        simp [Ne.symm hself]
        omega
      · by_cases hclose : c = closing opening
        · subst hclose
          simp [hself]
          omega
        · simp [hopen, hclose]

theorem turn_opening (h : closing opening ≠ opening) : turn opening opening = 1 := by
  rw [turn, if_neg h, if_pos rfl]

theorem turn_closing (h : closing opening ≠ opening) : turn opening (closing opening) = -1 := by
  rw [turn, if_neg h, if_neg h, if_pos rfl]

theorem turn_of_ne (hopen : c ≠ opening) (hclose : c ≠ closing opening) : turn opening c = 0 := by
  rw [turn, if_neg hopen, if_neg hclose, ite_self]

theorem neg_one_le_turn (opening c : Char) : -1 ≤ turn opening c := by
  unfold turn
  split_ifs <;> decide

theorem turn_nonneg (h : c ≠ closing opening) : 0 ≤ turn opening c := by
  rw [turn, if_neg h]
  split_ifs <;> decide

theorem depth_concat_nonneg (h : 0 ≤ depth opening s)
    (hc : c = closing opening → isPending s = false → depth opening s ≠ 0) :
    0 ≤ depth opening (s ++ [c]) := by
  rw [depth_concat]
  split
  · omega
  · rename_i hpending
    by_cases hclose : c = closing opening
    · have hne := hc hclose (Bool.eq_false_iff.2 hpending)
      have hturn := neg_one_le_turn opening c
      omega
    · have hturn := turn_nonneg hclose
      omega

/-! ### Texts that a body goes on behind -/

/-- What may open a pattern: no letter or digit, no backslash and no blank character. -/
structure CanOpen (c : Char) : Prop where
  notAlphanumeric : isAlphanumeric c = false
  ne_backslash : c ≠ '\\'
  notBlank : isBlank c = false

/-- No closing delimiter stands in the text outside every nested pair. -/
def StaysOpen (opening : Char) (s : List Char) : Prop :=
  ∀ first last, s = first ++ closing opening :: last → isPending first = false →
    depth opening first ≠ 0

/-- A body that a closing delimiter may follow. -/
structure IsBody (opening : Char) (body : List Char) : Prop where
  staysOpen : StaysOpen opening body
  notPending : isPending body = false
  level : closing opening ≠ opening → depth opening body = 0

theorem isDelimiter_iff : isDelimiter c = true ↔ CanOpen c := by
  simp only [isDelimiter, Bool.not_eq_true', Bool.or_eq_false_iff, beq_eq_false_iff_ne]
  constructor
  · intro h
    exact ⟨h.1.1, h.1.2, h.2⟩
  · intro h
    exact ⟨⟨h.notAlphanumeric, h.ne_backslash⟩, h.notBlank⟩

theorem depth_eq_zero (h : closing opening = opening) (s : List Char) : depth opening s = 0 :=
  if_pos h

theorem CanOpen.closing_ne_backslash (h : CanOpen opening) : closing opening ≠ '\\' := by
  have hne := h.ne_backslash
  unfold closing
  split
  · decide
  · decide
  · decide
  · decide
  · exact hne

theorem StaysOpen.of_concat (h : StaysOpen opening (s ++ [c])) : StaysOpen opening s := by
  intro first last hs
  exact h first (last ++ [c]) (by rw [hs, List.append_assoc, List.cons_append])

/-- One more character keeps a text open, unless it is the delimiter that ends the body. -/
theorem StaysOpen.concat (h : StaysOpen opening s)
    (hc : c = closing opening → isPending s = false → depth opening s ≠ 0) :
    StaysOpen opening (s ++ [c]) := by
  intro first last hs
  rcases List.eq_nil_or_concat' last with hlast | ⟨last', d, hlast⟩
  · subst hlast
    obtain ⟨hfirst, hhead⟩ := List.append_inj' hs rfl
    subst hfirst
    exact hc (List.cons.inj hhead).1
  · subst hlast
    rw [← List.cons_append, ← List.append_assoc] at hs
    obtain ⟨hfirst, -⟩ := List.append_inj' hs rfl
    exact h first last' hfirst

/-! ### The scan -/

/-- What the scan gives when it has passed over some characters first. -/
def prepend (passed : List Char) (parts : List Char × List Char) : List Char × List Char :=
  (passed ++ parts.1, parts.2)

/-- The scan passes over a character that does not end the body. -/
theorem scanBody_cons (hopen : CanOpen opening) {n : Nat} {pending : Bool}
    (hc : c = closing opening → pending = false → n ≠ 0)
    (hself : closing opening = opening → n = 0) (rest : List Char) :
    scanBody opening (closing opening) n pending (c :: rest) =
      (scanBody opening (closing opening)
        (n + if pending then 0 else turn opening c : Int).toNat (waits pending c) rest).map
          (prepend [c]) := by
  cases pending with
  | true => rfl
  | false =>
    conv =>
      lhs
      unfold scanBody
    by_cases hback : c = '\\'
    · have hstay : turn opening '\\' = 0 :=
        turn_of_ne hopen.ne_backslash.symm hopen.closing_ne_backslash.symm
      subst hback
      rw [if_pos rfl, hstay]
      rfl
    · have hwaits : waits false c = false := beq_eq_false_iff_ne.2 hback
      rw [if_neg hback, hwaits]
      by_cases hnested : closing opening ≠ opening ∧ c = opening
      · have hdeeper : turn opening c = 1 := by rw [hnested.2, turn_opening hnested.1]
        rw [if_pos hnested, hdeeper]
        rfl
      · rw [if_neg hnested]
        by_cases hclose : c = closing opening
        · have hpos := hc hclose rfl
          have hne : closing opening ≠ opening := fun h => hpos (hself h)
          have hback : turn opening c = -1 := by rw [hclose, turn_closing hne]
          obtain ⟨m, hm⟩ := Nat.exists_eq_succ_of_ne_zero hpos
          subst hm
          have hm : ((m + 1 : Nat) + (-1) : Int).toNat = m := by omega
          rw [if_pos hclose, hback, if_neg Bool.false_ne_true, hm]
          rfl
        · have hstay : turn opening c = 0 := by
            by_cases hsame : closing opening = opening
            · exact if_pos hsame
            · exact turn_of_ne (fun h => hnested ⟨hsame, h⟩) hclose
          rw [if_neg hclose, hstay]
          rfl

/-- Behind a text that stays open the counter of the scan is the depth. -/
theorem scanBody_append_of_staysOpen (hopen : CanOpen opening) (h : StaysOpen opening first)
    (rest : List Char) : 0 ≤ depth opening first ∧
      scanBody opening (closing opening) 0 false (first ++ rest) =
        (scanBody opening (closing opening) (depth opening first).toNat (isPending first) rest).map
          (prepend first) := by
  induction first using List.reverseRecOn generalizing rest with
  | nil =>
    have hzero : depth opening [] = 0 := by
      unfold depth
      split
      · rfl
      · rfl
    rw [hzero]
    exact ⟨Int.le_refl 0, Option.map_id'.symm⟩
  | append_singleton first c ih =>
    obtain ⟨hnonneg, hscan⟩ := ih h.of_concat (c :: rest)
    have hc : c = closing opening → isPending first = false → (depth opening first).toNat ≠ 0 := by
      intro hclose hpending
      have hne := h first [] (by rw [hclose]) hpending
      omega
    have hself (hsame : closing opening = opening) : (depth opening first).toNat = 0 := by
      rw [depth_eq_zero hsame]
      rfl
    have hstep := scanBody_cons hopen hc hself rest
    rw [Int.toNat_of_nonneg hnonneg, ← depth_concat, ← isPending_concat] at hstep
    have hback : 0 ≤ depth opening (first ++ [c]) := by
      refine depth_concat_nonneg hnonneg fun hclose hpending => ?_
      have hne := hc hclose hpending
      omega
    refine ⟨hback, ?_⟩
    rw [List.append_assoc, List.singleton_append, hscan, hstep, Option.map_map]
    congr 1
    funext parts
    simp only [prepend, Function.comp_apply, List.append_assoc]

/-- The scan stops behind a body. -/
theorem scanBody_of_isBody (hopen : CanOpen opening) (hbody : IsBody opening body)
    (after : List Char) :
    scanBody opening (closing opening) 0 false (body ++ closing opening :: after) =
      some (body, after) := by
  have hzero : depth opening body = 0 := by
    by_cases hself : closing opening = opening
    · exact depth_eq_zero hself body
    · exact hbody.level hself
  have hnested : ¬(closing opening ≠ opening ∧ closing opening = opening) := fun h => h.1 h.2
  obtain ⟨-, hscan⟩ := scanBody_append_of_staysOpen hopen hbody.staysOpen
    (closing opening :: after)
  rw [hscan, hzero, hbody.notPending, Int.toNat_zero, scanBody, if_neg hopen.closing_ne_backslash,
    if_neg hnested, if_pos rfl]
  simp [prepend]

/-- A text stays open or starts with a body and the delimiter behind it. -/
theorem staysOpen_or_exists_isBody (opening : Char) (s : List Char) : StaysOpen opening s ∨
    ∃ body after, s = body ++ closing opening :: after ∧ IsBody opening body := by
  induction s using List.reverseRecOn with
  | nil => exact Or.inl fun first last hs => absurd hs (by simp)
  | append_singleton s c ih =>
    rcases ih with hopen | ⟨body, after, hs, hbody⟩
    · by_cases hend : c = closing opening ∧ isPending s = false ∧ depth opening s = 0
      · refine Or.inr ⟨s, [], by rw [hend.1], hopen, hend.2.1, fun _ => hend.2.2⟩
      · exact Or.inl (hopen.concat fun hc hpending hdepth => hend ⟨hc, hpending, hdepth⟩)
    · exact Or.inr ⟨body, after ++ [c], by rw [hs, List.append_assoc, List.cons_append], hbody⟩

theorem scanBody_eq_some_iff (hopen : CanOpen opening) {after : List Char} :
    scanBody opening (closing opening) 0 false s = some (body, after) ↔
      s = body ++ closing opening :: after ∧ IsBody opening body := by
  constructor
  · intro h
    rcases staysOpen_or_exists_isBody opening s with hstays | ⟨body', after', hs, hbody⟩
    · obtain ⟨-, hscan⟩ := scanBody_append_of_staysOpen hopen hstays []
      rw [List.append_nil] at hscan
      rw [hscan, scanBody] at h
      exact absurd h (by simp)
    · rw [hs, scanBody_of_isBody hopen hbody after'] at h
      obtain ⟨hbodies, hafters⟩ := Prod.mk.inj (Option.some.inj h)
      subst hbodies hafters
      exact ⟨hs, hbody⟩
  · intro h
    rw [h.1]
    exact scanBody_of_isBody hopen h.2 after

/-! ### Cuts -/

/-- A text cut at its opening delimiter and at the delimiter that closes it. -/
structure IsCut (opening : Char) (s body modifiers : List Char) : Prop where
  text : s = opening :: (body ++ closing opening :: modifiers)
  canOpen : CanOpen opening
  isBody : IsBody opening body

variable {p modifiers : List Char}

theorem split?_of_nil (h : trimStart p = []) : split? p = .error .empty := by
  rw [split?, h]

theorem split?_of_unfit (h : trimStart p = c :: rest) (hopen : ¬CanOpen c) :
    split? p = .error (.unfitDelimiter c) := by
  rw [← isDelimiter_iff] at hopen
  rw [split?, h]
  exact if_neg hopen

theorem split?_of_canOpen (h : trimStart p = opening :: rest) (hopen : CanOpen opening) :
    split? p = match scanBody opening (closing opening) 0 false rest with
      | some parts => .ok parts
      | none => .error (.unclosed (closing opening)) := by
  rw [split?, h]
  exact if_pos (isDelimiter_iff.2 hopen)

theorem isCut_iff_scanBody (h : trimStart p = opening :: rest) (hopen : CanOpen opening) :
    IsCut opening (trimStart p) body modifiers ↔
      scanBody opening (closing opening) 0 false rest = some (body, modifiers) := by
  rw [scanBody_eq_some_iff hopen, h]
  constructor
  · intro hcut
    exact ⟨(List.cons.inj hcut.text).2, hcut.isBody⟩
  · intro hparts
    exact ⟨by rw [hparts.1], hopen, hparts.2⟩

theorem split?_of_isCut (h : IsCut opening (trimStart p) body modifiers) :
    split? p = .ok (body, modifiers) := by
  rw [split?_of_canOpen h.text h.canOpen, (isCut_iff_scanBody h.text h.canOpen).1 h]

theorem split?_of_not_isCut (h : trimStart p = opening :: rest) (hopen : CanOpen opening)
    (hnone : ∀ body modifiers, ¬IsCut opening (trimStart p) body modifiers) :
    split? p = .error (.unclosed (closing opening)) := by
  rw [split?_of_canOpen h hopen]
  split
  · rename_i parts hscan
    exact absurd ((isCut_iff_scanBody h hopen).2 hscan) (hnone _ _)
  · rfl

/-- The four things that can become of a text. -/
theorem split?_cases (p : List Char) : (trimStart p = [] ∧ split? p = .error .empty) ∨
    ∃ opening, (trimStart p).head? = some opening ∧
      ((¬CanOpen opening ∧ split? p = .error (.unfitDelimiter opening)) ∨
        (CanOpen opening ∧ (∀ body modifiers, ¬IsCut opening (trimStart p) body modifiers) ∧
          split? p = .error (.unclosed (closing opening))) ∨
        ∃ body modifiers, IsCut opening (trimStart p) body modifiers ∧
          split? p = .ok (body, modifiers)) := by
  cases hhead : (trimStart p).head? with
  | none =>
    have hp := List.head?_eq_none_iff.1 hhead
    exact Or.inl ⟨hp, split?_of_nil hp⟩
  | some opening =>
    obtain ⟨rest, hp⟩ := List.head?_eq_some_iff.1 hhead
    refine Or.inr ⟨opening, rfl, ?_⟩
    by_cases hopen : CanOpen opening
    · by_cases hcut : ∃ body modifiers, IsCut opening (trimStart p) body modifiers
      · obtain ⟨body, modifiers, hcut⟩ := hcut
        exact Or.inr (Or.inr ⟨body, modifiers, hcut, split?_of_isCut hcut⟩)
      · have hnone : ∀ body modifiers, ¬IsCut opening (trimStart p) body modifiers :=
          fun body modifiers h => hcut ⟨body, modifiers, h⟩
        exact Or.inr (Or.inl ⟨hopen, hnone, split?_of_not_isCut hp hopen hnone⟩)
    · exact Or.inl ⟨hopen, split?_of_unfit hp hopen⟩

theorem split?_eq_ok_iff : split? p = .ok (body, modifiers) ↔
    ∃ opening, IsCut opening (trimStart p) body modifiers := by
  constructor
  · intro h
    obtain ⟨_, hsplit⟩ | ⟨opening, _, ⟨_, hsplit⟩ | ⟨_, _, hsplit⟩ | ⟨_, _, hcut, hsplit⟩⟩ :=
      split?_cases p
    all_goals
      rw [hsplit] at h
      cases h
    exact ⟨opening, hcut⟩
  · intro h
    obtain ⟨opening, hcut⟩ := h
    exact split?_of_isCut hcut

theorem split?_eq_empty_iff : split? p = .error .empty ↔ trimStart p = [] := by
  constructor
  · intro h
    obtain ⟨hnil, _⟩ | ⟨opening, _, ⟨_, hsplit⟩ | ⟨_, _, hsplit⟩ | ⟨_, _, _, hsplit⟩⟩ :=
      split?_cases p
    · exact hnil
    all_goals
      rw [hsplit] at h
      cases h
  · exact split?_of_nil

theorem split?_eq_unfitDelimiter_iff : split? p = .error (.unfitDelimiter c) ↔
    (trimStart p).head? = some c ∧ ¬CanOpen c := by
  constructor
  · intro h
    obtain ⟨_, hsplit⟩ | ⟨opening, hhead, ⟨hopen, hsplit⟩ | ⟨_, _, hsplit⟩ | ⟨_, _, _, hsplit⟩⟩ :=
      split?_cases p
    all_goals
      rw [hsplit] at h
      cases h
    exact ⟨hhead, hopen⟩
  · intro h
    obtain ⟨rest, hp⟩ := List.head?_eq_some_iff.1 h.1
    exact split?_of_unfit hp h.2

theorem split?_eq_unclosed_iff : split? p = .error (.unclosed c) ↔
    ∃ opening, (trimStart p).head? = some opening ∧ CanOpen opening ∧ closing opening = c ∧
      ∀ body modifiers, ¬IsCut opening (trimStart p) body modifiers := by
  constructor
  · intro h
    obtain ⟨_, hsplit⟩ | ⟨opening, hhead, ⟨_, hsplit⟩ | ⟨hopen, hnone, hsplit⟩ |
      ⟨_, _, _, hsplit⟩⟩ := split?_cases p
    all_goals
      rw [hsplit] at h
      cases h
    exact ⟨opening, hhead, hopen, rfl, hnone⟩
  · intro h
    obtain ⟨opening, hhead, hopen, hclosing, hnone⟩ := h
    obtain ⟨rest, hp⟩ := List.head?_eq_some_iff.1 hhead
    rw [split?_of_not_isCut hp hopen hnone, hclosing]

theorem IsCut.unique {opening' : Char} {body' modifiers' : List Char}
    (h : IsCut opening s body modifiers) (h' : IsCut opening' s body' modifiers') :
    opening = opening' ∧ body = body' ∧ modifiers = modifiers' := by
  have htext := h.text.symm.trans h'.text
  obtain ⟨hopening, hrest⟩ := List.cons.inj htext
  subst hopening
  have hscan := scanBody_of_isBody h.canOpen h.isBody modifiers
  rw [hrest, scanBody_of_isBody h.canOpen h'.isBody modifiers'] at hscan
  obtain ⟨hbody, hmodifiers⟩ := Prod.mk.inj (Option.some.inj hscan)
  exact ⟨rfl, hbody.symm, hmodifiers.symm⟩

/-- What a text is cut into, in only one way, and which fault is found where it cannot be cut.  As
long as the body goes on the counter of the scan is a depth, and no depth is negative. -/
theorem split?_outcomes (p : List Char) :
    (∀ body modifiers, split? p = .ok (body, modifiers) ↔
      ∃ opening, IsCut opening (trimStart p) body modifiers) ∧
    (∀ opening body modifiers opening' body' modifiers',
      IsCut opening (trimStart p) body modifiers ∧
        IsCut opening' (trimStart p) body' modifiers' →
      opening = opening' ∧ body = body' ∧ modifiers = modifiers') ∧
    (split? p = .error .empty ↔ trimStart p = []) ∧
    (∀ c, split? p = .error (.unfitDelimiter c) ↔
      (trimStart p).head? = some c ∧ ¬CanOpen c) ∧
    (∀ c, split? p = .error (.unclosed c) ↔
      ∃ opening, (trimStart p).head? = some opening ∧ CanOpen opening ∧ closing opening = c ∧
        ∀ body modifiers, ¬IsCut opening (trimStart p) body modifiers) ∧
    ∀ opening first rest, trimStart p = opening :: (first ++ rest) →
      CanOpen opening → StaysOpen opening first →
      ∃ counter : Nat, depth opening first = counter ∧
        scanBody opening (closing opening) 0 false (first ++ rest) =
          (scanBody opening (closing opening) counter (isPending first) rest).map
            (prepend first) := by
  refine ⟨fun _ _ => split?_eq_ok_iff, fun _ _ _ _ _ _ h => h.1.unique h.2, split?_eq_empty_iff,
    fun _ => split?_eq_unfitDelimiter_iff, fun _ => split?_eq_unclosed_iff, ?_⟩
  intro opening first rest _ hopen hstays
  obtain ⟨hnonneg, hscan⟩ := scanBody_append_of_staysOpen hopen hstays rest
  exact ⟨(depth opening first).toNat, (Int.toNat_of_nonneg hnonneg).symm, hscan⟩

/-- Brackets nest, and a backslash takes one along. -/
example : split? "(a(1)\\))x".toList = .ok ("a(1)\\)".toList, ['x']) := rfl

end FormRules.Pattern.Delimited
