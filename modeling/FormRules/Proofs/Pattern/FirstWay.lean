import FormRules.Proofs.Pattern.Preference
import FormRules.Proofs.Text.Blank
import Mathlib.Data.List.TakeWhile

/-!
# The first way that goes on

What follows a part of an expression takes the first of its ways from which it can go on.  For a run
of characters of one set that is the longest way, or the shortest, or one that lies between;
`findSome?_star` says when it is the longest.  `FindsAll` is the search for all matches, each from
where the one before ends.
-/

namespace FormRules.Pattern

open Regex

variable {s : List Char} {x : Stand} {β : Type} {f : Stand → Option β}

/-! ### Stands -/

namespace Stand

def ahead (x : Stand) (s : List Char) : List Char := s.drop x.position

/-- The stand from which a rest of the subject lies ahead. -/
def before (x : Stand) (s rest : List Char) : Stand := ⟨s.length - rest.length, x.slots⟩

theorem getElem?_position (x : Stand) (s : List Char) : s[x.position]? = (x.ahead s).head? :=
  List.head?_drop.symm

theorem ahead_forward (x : Stand) (count : Nat) :
    (x.forward count).ahead s = (x.ahead s).drop count := by
  rw [ahead, ahead, List.drop_drop]
  rfl

theorem ahead_forward_one {c : Char} {t : List Char} (h : x.ahead s = c :: t) :
    (x.forward 1).ahead s = t := by
  rw [ahead_forward, h]
  rfl

theorem ahead_forward_length {piece rest : List Char} (h : x.ahead s = piece ++ rest) :
    (x.forward piece.length).ahead s = rest := by
  rw [ahead_forward, h, List.drop_left]

theorem position_lt {c : Char} {t : List Char} (h : x.ahead s = c :: t) :
    x.position < s.length := by
  have hlength := congrArg List.length h
  rw [ahead, List.length_drop, List.length_cons] at hlength
  omega

theorem forward_forward (x : Stand) (m n : Nat) : (x.forward m).forward n = x.forward (m + n) := by
  simp only [forward, Nat.add_assoc]

theorem forward_eq_before {piece rest : List Char} (hx : x.position ≤ s.length)
    (h : x.ahead s = piece ++ rest) : x.forward piece.length = x.before s rest := by
  have hlength := congrArg List.length h
  rw [ahead, List.length_drop, List.length_append] at hlength
  simp only [forward, before, Stand.mk.injEq, and_true]
  omega

/-- The stands from one on, as far as a number of characters ahead. -/
def upTo (x : Stand) (count : Nat) : List Stand := (List.range (count + 1)).map x.forward

theorem upTo_succ (x : Stand) (count : Nat) :
    x.upTo (count + 1) = x :: (x.forward 1).upTo count := by
  have hforward : x.forward ∘ Nat.succ = (x.forward 1).forward := by
    funext n
    rw [forward_forward, Nat.add_comm]
    rfl
  rw [upTo, List.range_succ_eq_map, List.map_cons, List.map_map, hforward]
  rfl

theorem mem_upTo {y : Stand} {count : Nat} : y ∈ x.upTo count ↔ ∃ n ≤ count, y = x.forward n := by
  simp only [upTo, List.mem_map, List.mem_range, Nat.lt_succ_iff, eq_comm]

end Stand

/-! ### Ways -/

theorem findSome?_flatMap {α γ : Type} (l : List α) (g : α → List γ) (h : γ → Option β) :
    (l.flatMap g).findSome? h = l.findSome? fun a => (g a).findSome? h := by
  induction l with
  | nil => rfl
  | cons a l ih =>
    rw [List.flatMap_cons, List.findSome?_append, ih, List.findSome?_cons]
    cases (g a).findSome? h with
    | none => rfl
    | some b => rfl

namespace Regex

theorem findSome?_seq {a b : Regex} : ((seq a b).ways s x).findSome? f =
    (a.ways s x).findSome? fun y => (b.ways s y).findSome? f :=
  findSome?_flatMap _ _ _

theorem findSome?_alt {a b : Regex} : ((alt a b).ways s x).findSome? f =
    ((a.ways s x).findSome? f).or ((b.ways s x).findSome? f) :=
  List.findSome?_append

theorem findSome?_group {index : Nat} {r : Regex} : ((group index r).ways s x).findSome? f =
    (r.ways s (x.record (2 * index))).findSome? fun y => f (y.record (2 * index + 1)) :=
  List.findSome?_map

theorem ways_chars_cons {set : CharSet} {c : Char} {t : List Char} (h : x.ahead s = c :: t) :
    (chars set).ways s x = if set.mem c then [x.forward 1] else [] := by
  rw [ways, x.getElem?_position, h]
  rfl

theorem ways_chars_nil {set : CharSet} (h : x.ahead s = []) : (chars set).ways s x = [] := by
  rw [ways, x.getElem?_position, h]
  rfl

theorem ways_char_cons {c d : Char} {t : List Char} (h : x.ahead s = c :: t) :
    (char d).ways s x = if c = d then [x.forward 1] else [] := by
  rw [char, ways_chars_cons h]
  simp only [CharSet.mem_single]

theorem findSome?_char_cons {r : Regex} {c d : Char} {t : List Char} (h : x.ahead s = c :: t) :
    ((seq (char d) r).ways s x).findSome? f =
      if c = d then (r.ways s (x.forward 1)).findSome? f else none := by
  rw [findSome?_seq, ways_char_cons h]
  split
  · exact List.findSome?_singleton
  · rfl

theorem findSome?_char_nil {r : Regex} {d : Char} (h : x.ahead s = []) :
    ((seq (char d) r).ways s x).findSome? f = none := by
  rw [findSome?_seq, char, ways_chars_nil h]
  rfl

def runOf (set : CharSet) (t : List Char) : List Char := t.takeWhile set.mem

/-- The stand behind the characters of a set that lie ahead. -/
def past (set : CharSet) (s : List Char) (x : Stand) : Stand :=
  x.forward (runOf set (x.ahead s)).length

theorem ahead_past (set : CharSet) (x : Stand) :
    (past set s x).ahead s = (x.ahead s).dropWhile set.mem := by
  exact Stand.ahead_forward_length List.takeWhile_append_dropWhile.symm

theorem exists_ahead_of_lt {set : CharSet} {n : Nat} (h : n < (runOf set (x.ahead s)).length) :
    ∃ c t, (x.forward n).ahead s = c :: t ∧ set.mem c = true := by
  have hsplit := List.takeWhile_append_dropWhile (p := set.mem) (l := x.ahead s)
  rw [runOf] at h
  rw [Stand.ahead_forward, ← hsplit, List.drop_append_of_le_length (Nat.le_of_lt h),
    List.drop_eq_getElem_cons h]
  exact ⟨_, _, rfl, List.mem_takeWhile_imp (List.getElem_mem h)⟩

theorem optionalRounds_chars {set : CharSet} {greedy : Bool} {count : Nat}
    (hcount : (x.ahead s).length ≤ count) :
    optionalRounds ((chars set).ways s) greedy count x =
      if greedy then (x.upTo (runOf set (x.ahead s)).length).reverse
      else x.upTo (runOf set (x.ahead s)).length := by
  induction count generalizing x with
  | zero =>
    have hnil := List.length_eq_zero_iff.1 (Nat.le_zero.1 hcount)
    rw [hnil]
    cases greedy <;> rfl
  | succ count ih =>
    rw [optionalRounds]
    cases ht : x.ahead s with
    | nil =>
      rw [ways_chars_nil ht]
      cases greedy <;> rfl
    | cons c t =>
      have htail := Stand.ahead_forward_one ht
      rw [ways_chars_cons ht, runOf, List.takeWhile_cons]
      split
      · rw [ht, List.length_cons] at hcount
        have hrest := ih (x := x.forward 1) (by rw [htail]; omega)
        rw [htail, runOf] at hrest
        rw [List.flatMap_singleton, hrest, List.length_cons, Stand.upTo_succ]
        cases greedy with
        | true => exact List.reverse_cons.symm
        | false => rfl
      · cases greedy <;> rfl

theorem ways_run {set : CharSet} {greedy : Bool} :
    (repeated (chars set) 0 none greedy).ways s x =
      if greedy then (x.upTo (runOf set (x.ahead s)).length).reverse
      else x.upTo (runOf set (x.ahead s)).length := by
  rw [ways, requiredRounds, List.flatMap_singleton]
  refine optionalRounds_chars ?_
  rw [Stand.ahead, List.length_drop]
  exact Nat.sub_le _ _

theorem findSome?_upTo_reverse (n : Nat) : (x.upTo (n + 1)).reverse.findSome? f =
    (f (x.forward (n + 1))).or ((x.upTo n).reverse.findSome? f) := by
  rw [Stand.upTo, List.range_succ, List.map_append, List.reverse_append, List.findSome?_append,
    List.map_singleton, List.reverse_singleton, List.findSome?_singleton]
  rfl

theorem findSome?_upTo_of_ne_none {n : Nat} (h : f (x.forward n) ≠ none) :
    (x.upTo n).reverse.findSome? f = f (x.forward n) := by
  cases n with
  | zero => exact List.findSome?_singleton
  | succ n =>
    obtain ⟨b, hb⟩ := Option.ne_none_iff_exists'.1 h
    rw [findSome?_upTo_reverse, hb]
    rfl

theorem ways_star {set : CharSet} {run rest : List Char} (h : x.ahead s = run ++ rest)
    (hrun : ∀ c ∈ run, set.mem c = true) (hrest : ∀ c, rest.head? = some c → set.mem c = false) :
    (star (chars set)).ways s x = (x.upTo run.length).reverse := by
  have htake : runOf set (x.ahead s) = run := by
    rw [h]
    exact (Text.run_append hrun hrest).1
  rw [star, ways_run, if_pos rfl, htake]

theorem past_eq_before {set : CharSet} (hx : x.position ≤ s.length) :
    past set s x = x.before s ((x.ahead s).dropWhile set.mem) :=
  Stand.forward_eq_before hx List.takeWhile_append_dropWhile.symm

theorem position_past_le {set : CharSet} (hx : x.position ≤ s.length) :
    (past set s x).position ≤ s.length := by
  rw [past_eq_before hx]
  exact Nat.sub_le _ _

theorem findSome?_star_of_ne_none {set : CharSet} (h : f (past set s x) ≠ none) :
    ((star (chars set)).ways s x).findSome? f = f (past set s x) := by
  rw [star, ways_run, if_pos rfl]
  exact findSome?_upTo_of_ne_none h

/-- What follows a greedy run goes on behind all of it, if it cannot start with a character of the
run. -/
theorem findSome?_star {set : CharSet}
    (h : ∀ y c t, y.ahead s = c :: t → set.mem c = true → f y = none) :
    ((star (chars set)).ways s x).findSome? f = f (past set s x) := by
  rw [star, ways_run, if_pos rfl, past]
  cases hrun : (runOf set (x.ahead s)).length with
  | zero => exact List.findSome?_singleton
  | succ n =>
    have hnone : (x.upTo n).reverse.findSome? f = none := by
      refine List.findSome?_eq_none_iff.2 fun y hy => ?_
      obtain ⟨m, hm, rfl⟩ := Stand.mem_upTo.1 (List.mem_reverse.1 hy)
      have hlt : m < (runOf set (x.ahead s)).length := by omega
      obtain ⟨c, t, hahead, hc⟩ := exists_ahead_of_lt hlt
      exact h _ c t hahead hc
    rw [findSome?_upTo_reverse, hnone, Option.or_none]

theorem ways_plus_cons {set : CharSet} {c : Char} {t : List Char} (h : x.ahead s = c :: t)
    (hc : set.mem c = true) :
    (plus (chars set)).ways s x = (star (chars set)).ways s (x.forward 1) := by
  rw [plus, star, ways, ways, requiredRounds, requiredRounds, ways_chars_cons h, if_pos hc]
  rw [List.flatMap_singleton, requiredRounds]

theorem ways_plus_none {set : CharSet} (h : ∀ c, (x.ahead s).head? = some c → set.mem c = false) :
    (plus (chars set)).ways s x = [] := by
  have hnone : (chars set).ways s x = [] := by
    cases ht : x.ahead s with
    | nil => exact ways_chars_nil ht
    | cons c t =>
      rw [ht] at h
      rw [ways_chars_cons ht, h c rfl]
      rfl
  rw [plus, ways, requiredRounds, hnone]
  rfl

/-- What follows a run that takes as little as it can goes on before it, or else behind its first
character. -/
theorem findSome?_lazy_cons {set : CharSet} {c : Char} {t : List Char} (h : x.ahead s = c :: t) :
    ((repeated (chars set) 0 none false).ways s x).findSome? f = (f x).or
      (if set.mem c then
        ((repeated (chars set) 0 none false).ways s (x.forward 1)).findSome? f
      else none) := by
  have htail := Stand.ahead_forward_one h
  simp only [ways_run, h, htail, runOf, List.takeWhile_cons]
  cases set.mem c with
  | true =>
    simp only [if_true, List.length_cons, Stand.upTo_succ]
    rw [if_neg Bool.false_ne_true, if_neg Bool.false_ne_true, List.findSome?_cons]
    cases f x <;> rfl
  | false => cases hx : f x <;> simp [Stand.upTo, Stand.forward, hx]

theorem findSome?_lazy_nil {set : CharSet} (h : x.ahead s = []) :
    ((repeated (chars set) 0 none false).ways s x).findSome? f = f x := by
  rw [ways_run, h]
  exact List.findSome?_singleton

/-! ### One match after the other -/

variable {r : Regex} {start : Nat}

theorem firstWay_eq (r : Regex) (s : List Char) (start : Nat) :
    r.firstWay s start = (r.ways s (r.opening start)).findSome? fun y => some (y.record 1) := by
  rw [firstWay]
  cases r.ways s (r.opening start) with
  | nil => rfl
  | cons y ys => rfl

theorem searchAt_of_firstWay (hsteady : r.isSteady = true) {y : Stand} (hstart : start ≤ s.length)
    (h : r.firstWay s start = some y) : r.searchAt s start = some (r.spansOf y.slots) := by
  rw [searchAt_eq hsteady, Nat.succ_sub hstart, List.range'_succ, List.findSome?_cons, h]
  rfl

theorem searchAt_add (hsteady : r.isSteady = true) {count : Nat}
    (hcount : start + count ≤ s.length + 1) (h : ∀ n < count, r.firstWay s (start + n) = none) :
    r.searchAt s start = r.searchAt s (start + count) := by
  induction count with
  | zero => rfl
  | succ count ih =>
    have hnone := h count (Nat.lt_succ_self count)
    have hle : start + count ≤ s.length := Nat.le_of_succ_le_succ hcount
    rw [ih (Nat.le_of_succ_le hcount) fun n hn => h n (Nat.lt_succ_of_lt hn)]
    rw [searchAt_eq hsteady, searchAt_eq hsteady, Nat.succ_sub hle, List.range'_succ,
      List.findSome?_cons, hnone, ← Nat.add_assoc, Nat.add_sub_add_right]

/-- The matches that have characters, found one after the other: each search starts where the match
before it ends. -/
inductive FindsAll (r : Regex) (s : List Char) : Nat → List (List (Option Span)) → Prop
  | done (start : Nat) (hnone : r.searchAt s start = none) : FindsAll r s start []
  | next (start first last : Nat) (groups : List (Option Span)) (found : List (List (Option Span)))
    (hsome : r.searchAt s start = some (some (first, last) :: groups)) (hlt : first < last)
    (hrest : FindsAll r s last found) :
    FindsAll r s start ((some (first, last) :: groups) :: found)

theorem FindsAll.of_searchAt {next : Nat} {found : List (List (Option Span))}
    (h : FindsAll r s next found) (heq : r.searchAt s start = r.searchAt s next) :
    FindsAll r s start found := by
  cases h with
  | done _ hnone => exact .done start (heq.trans hnone)
  | next _ first last groups found hsome hlt hrest =>
    exact .next start first last groups found (heq.trans hsome) hlt hrest

end Regex

end FormRules.Pattern
