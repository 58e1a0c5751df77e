import FormRules.Text.Blank
import Mathlib.Data.List.Basic
import Mathlib.Data.List.TakeWhile

/-!
# Trimming

Blank characters around a text that neither starts nor ends with one are what `trim` takes away.
-/

namespace FormRules.Text

variable {s t blanks : List Char}

/-- A run of blank characters, which may be empty. -/
def AllBlank (s : List Char) : Prop := ∀ c ∈ s, isBlank c = true

/-- The text does not start with a blank character. -/
def StartsSolid (s : List Char) : Prop := ∀ c, s.head? = some c → isBlank c = false

/-- The text does not end with a blank character. -/
def EndsSolid (s : List Char) : Prop := ∀ c, s.getLast? = some c → isBlank c = false

/-- The visible characters of ASCII are not blank. -/
theorem isBlank_of_visible {c : Char} (h : '!'.toNat ≤ c.toNat ∧ c.toNat ≤ '~'.toNat) :
    isBlank c = false := by
  have hfirst : '!'.toNat = 33 := rfl
  have hlast : '~'.toNat = 126 := rfl
  simp only [isBlank, Bool.or_eq_false_iff, Bool.and_eq_false_iff, decide_eq_false_iff_not,
    beq_eq_false_iff_ne]
  omega

theorem isBlank_of_isAlpha {c : Char} (h : c.isAlpha = true) : isBlank c = false := by
  have hupper (hcase : c.isUpper = true) : 'A'.val ≤ c.val ∧ c.val ≤ 'Z'.val :=
    of_decide_eq_true hcase
  have hlower (hcase : c.isLower = true) : 'a'.val ≤ c.val ∧ c.val ≤ 'z'.val :=
    (Bool.and_eq_true_iff.1 hcase).imp of_decide_eq_true of_decide_eq_true
  have hrange := (Bool.or_eq_true_iff.1 h).imp hupper hlower
  simp only [UInt32.le_iff_toNat_le] at hrange
  have hA : 'A'.val.toNat = 65 := rfl
  have hZ : 'Z'.val.toNat = 90 := rfl
  have ha : 'a'.val.toNat = 97 := rfl
  have hz : 'z'.val.toNat = 122 := rfl
  have hfirst : '!'.toNat = 33 := rfl
  have hlast : '~'.toNat = 126 := rfl
  have hval : c.toNat = c.val.toNat := rfl
  exact isBlank_of_visible (by omega)

theorem isAlpha_of_isBlank {c : Char} (h : isBlank c = true) : c.isAlpha = false := by
  refine Bool.eq_false_iff.2 fun halpha => ?_
  rw [isBlank_of_isAlpha halpha] at h
  exact Bool.false_ne_true h

theorem isBlank_of_isDigit {c : Char} (h : c.isDigit = true) : isBlank c = false := by
  have hrange : '0'.toNat ≤ c.toNat ∧ c.toNat ≤ '9'.toNat := Char.isDigit_iff_toNat.1 h
  have hzero : '0'.toNat = 48 := rfl
  have hnine : '9'.toNat = 57 := rfl
  have hfirst : '!'.toNat = 33 := rfl
  have hlast : '~'.toNat = 126 := rfl
  exact isBlank_of_visible (by omega)

theorem AllBlank.nil : AllBlank [] := List.forall_mem_nil _

theorem AllBlank.reverse (h : AllBlank s) : AllBlank s.reverse :=
  fun c hc => h c (List.mem_reverse.1 hc)

/-- A run of characters of a kind ends where one of another kind follows. -/
theorem run_append {p : Char → Bool} (hs : ∀ c ∈ s, p c = true)
    (hrest : ∀ c, t.head? = some c → p c = false) :
    (s ++ t).takeWhile p = s ∧ (s ++ t).dropWhile p = t := by
  rw [List.takeWhile_append_of_pos hs, List.dropWhile_append_of_pos hs]
  cases t with
  | nil => exact ⟨List.append_nil s, rfl⟩
  | cons c t =>
    have hc : ¬p c = true := by rw [hrest c rfl]; exact Bool.false_ne_true
    rw [List.takeWhile_cons_of_neg hc, List.dropWhile_cons_of_neg hc]
    exact ⟨List.append_nil s, rfl⟩

theorem trimStart_append_of_blank (h : AllBlank blanks) (s : List Char) :
    trimStart (blanks ++ s) = trimStart s := List.dropWhile_append_of_pos h

theorem trimStart_of_solid (h : StartsSolid s) : trimStart s = s := by
  cases s with
  | nil => rfl
  | cons c s => rw [trimStart_cons, h c rfl, if_neg Bool.false_ne_true]

theorem trimEnd_append_of_blank (h : AllBlank blanks) (s : List Char) :
    trimEnd (s ++ blanks) = trimEnd s := by
  rw [trimEnd, List.reverse_append, trimStart_append_of_blank h.reverse, trimEnd]

theorem trimEnd_of_solid (h : EndsSolid s) : trimEnd s = s := by
  have hsolid : StartsSolid s.reverse := fun c hc => h c (by rwa [List.head?_reverse] at hc)
  rw [trimEnd, trimStart_of_solid hsolid, List.reverse_reverse]

theorem StartsSolid.append (h : StartsSolid s) (hne : s ≠ []) (t : List Char) :
    StartsSolid (s ++ t) := by
  intro c hc
  rw [List.head?_append, List.head?_eq_some_head hne, Option.some_or] at hc
  exact h c (by rw [List.head?_eq_some_head hne, hc])

theorem EndsSolid.append (h : EndsSolid t) (hne : t ≠ []) (s : List Char) :
    EndsSolid (s ++ t) := by
  intro c hc
  rw [List.getLast?_append, List.getLast?_eq_some_getLast hne, Option.some_or] at hc
  exact h c (by rw [List.getLast?_eq_some_getLast hne, hc])

theorem trimEnd_append_cons {c : Char} (hc : isBlank c = false) (s t : List Char) :
    trimEnd (s ++ c :: t) = s ++ c :: trimEnd t := by
  have hfront : trimStart (c :: s.reverse) = c :: s.reverse := by
    rw [trimStart_cons, hc, if_neg Bool.false_ne_true]
  have hback : trimStart (t.reverse ++ c :: s.reverse) = trimStart t.reverse ++ c :: s.reverse := by
    rw [trimStart, List.dropWhile_append]
    split
    · rename_i hempty
      have hnil : trimStart t.reverse = [] := List.isEmpty_iff.1 hempty
      rw [hnil]
      exact hfront
    · rfl
  rw [trimEnd, List.reverse_append, List.reverse_cons, List.append_assoc, List.singleton_append,
    hback, List.reverse_append, List.reverse_cons, List.reverse_reverse, List.append_assoc,
    List.singleton_append, trimEnd]

/-- A text comes out of the blank characters around it. -/
theorem trim_between {lead after : List Char} (hlead : AllBlank lead) (hafter : AllBlank after)
    (hstart : StartsSolid s) (hend : EndsSolid s) (hne : s ≠ []) :
    trim (lead ++ s ++ after) = s := by
  rw [trim, List.append_assoc, trimStart_append_of_blank hlead,
    trimStart_of_solid (hstart.append hne after), trimEnd_append_of_blank hafter,
    trimEnd_of_solid hend]

section FlatMap

variable {α : Type} {f : α → List Char} {l : List α}

theorem startsSolid_flatMap (h : ∀ a, l.head? = some a → f a ≠ [] ∧ StartsSolid (f a)) :
    StartsSolid (l.flatMap f) := by
  cases l with
  | nil => exact fun c hc => nomatch hc
  | cons a l =>
    obtain ⟨hne, hsolid⟩ := h a rfl
    rw [List.flatMap_cons]
    exact hsolid.append hne _

theorem endsSolid_flatMap (h : ∀ a, l.getLast? = some a → f a ≠ [] ∧ EndsSolid (f a)) :
    EndsSolid (l.flatMap f) := by
  rcases List.eq_nil_or_concat' l with rfl | ⟨l, a, rfl⟩
  · exact fun c hc => nomatch hc
  · obtain ⟨hne, hsolid⟩ := h a List.getLast?_concat
    rw [List.flatMap_append, List.flatMap_singleton]
    exact hsolid.append hne _

theorem trim_flatMap (hfirst : ∀ a, l.head? = some a → f a ≠ [] ∧ StartsSolid (f a))
    (hlast : ∀ a, l.getLast? = some a → f a ≠ [] ∧ EndsSolid (f a)) :
    trim (l.flatMap f) = l.flatMap f := by
  rw [trim, trimStart_of_solid (startsSolid_flatMap hfirst),
    trimEnd_of_solid (endsSolid_flatMap hlast)]

end FlatMap

theorem allBlank_of_trim_eq_nil (h : trim s = []) : AllBlank s := by
  have hrest : ∀ c ∈ s.dropWhile isBlank, isBlank c = true := by
    simp only [trim, trimEnd, trimStart, List.reverse_eq_nil_iff, List.dropWhile_eq_nil_iff,
      List.mem_reverse] at h
    exact h
  intro c hc
  have hparts : s.takeWhile isBlank ++ s.dropWhile isBlank = s := List.takeWhile_append_dropWhile
  rw [← hparts, List.mem_append] at hc
  cases hc with
  | inl hfront => exact List.mem_takeWhile_imp hfront
  | inr hback => exact hrest c hback

theorem mem_dropWhile {p : Char → Bool} {c : Char} (hc : c ∈ s) (hp : p c = false) :
    c ∈ s.dropWhile p := by
  rw [← List.takeWhile_append_dropWhile (p := p) (l := s), List.mem_append] at hc
  refine hc.resolve_left fun hfront => ?_
  rw [List.mem_takeWhile_imp hfront] at hp
  exact Bool.false_ne_true hp.symm

theorem mem_trim {c : Char} (hc : c ∈ s) (hsolid : isBlank c = false) : c ∈ trim s :=
  List.mem_reverse.2 (mem_dropWhile (List.mem_reverse.2 (mem_dropWhile hc hsolid)) hsolid)

theorem trimEnd_isPrefix (s : List Char) : trimEnd s <+: s := by
  rw [← List.reverse_suffix, trimEnd, List.reverse_reverse]
  exact List.dropWhile_suffix isBlank

theorem isInfix_trim (s : List Char) : trim s <:+: s :=
  (trimEnd_isPrefix _).isInfix.trans (List.dropWhile_suffix isBlank).isInfix

/-! ### Both ends -/

theorem trimStart_eq_nil_iff : trimStart s = [] ↔ AllBlank s := List.dropWhile_eq_nil_iff

theorem trimEnd_eq_nil_iff : trimEnd s = [] ↔ AllBlank s := by
  rw [trimEnd, List.reverse_eq_nil_iff, trimStart_eq_nil_iff]
  simp only [AllBlank, List.mem_reverse]

theorem startsSolid_trimStart (s : List Char) : StartsSolid (trimStart s) := by
  intro c hc
  have hstop := List.head?_dropWhile_not isBlank s
  rw [← trimStart, hc] at hstop
  exact hstop

/-- The ends may be trimmed in either order. -/
theorem trimStart_trimEnd (s : List Char) : trimStart (trimEnd s) = trim s := by
  cases h : trimStart s with
  | nil =>
    rw [trim, h, trimEnd_eq_nil_iff.2 (trimStart_eq_nil_iff.1 h)]
    rfl
  | cons c t =>
    have hblanks : AllBlank (s.takeWhile isBlank) := fun d hd => List.mem_takeWhile_imp hd
    have hs : s = s.takeWhile isBlank ++ c :: t := by
      rw [← h, trimStart, List.takeWhile_append_dropWhile]
    have hc : isBlank c = false := startsSolid_trimStart s c (by rw [h]; rfl)
    rw [trim, h, hs, trimEnd_append_cons hc, trimStart_append_of_blank hblanks, trimStart_cons, hc,
      if_neg Bool.false_ne_true, ← List.nil_append (c :: t), trimEnd_append_cons hc,
      List.nil_append]

theorem trim_trimEnd (s : List Char) : trim (trimEnd s) = trim s := by
  rw [trim, trimStart_trimEnd, trim, trimEnd, trimEnd, List.reverse_reverse, trimStart_idem]

theorem trim_append_of_blank (h : AllBlank blanks) (s : List Char) :
    trim (s ++ blanks) = trim s := by
  rw [← trimStart_trimEnd, trimEnd_append_of_blank h, trimStart_trimEnd]

theorem trim_eq_nil_iff : trim s = [] ↔ AllBlank s := by
  rw [← trimStart_trimEnd, trimStart_eq_nil_iff]
  constructor
  · intro h
    exact allBlank_of_trim_eq_nil (by rw [← trimStart_trimEnd, trimStart_eq_nil_iff.2 h])
  · intro h c hc
    exact h c ((trimEnd_isPrefix s).subset hc)

end FormRules.Text
