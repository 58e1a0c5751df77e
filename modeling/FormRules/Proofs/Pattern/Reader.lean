import FormRules.Pattern.Reader
import Mathlib.Data.List.TakeWhile

/-!
# Reading a text with more behind it

What a reader makes of a text it also makes of the text with a closing parenthesis and more behind
it, since no reader looks past a closing parenthesis.  Only a comment of verbose mode does, and it
takes everything up to the end of its line along.
-/

namespace FormRules.Pattern

open FormRules.Text

/-- A text that ends what stands before it: a closing parenthesis, and in what follows no line feed
that would end a comment and no colon that would end a name. -/
structure Closes (t : List Char) : Prop where
  head : ∃ rest, t = ')' :: rest
  line : '\n' ∉ t
  colon : ':' ∉ t

/-- A hash sign stands in the last line. -/
def HasLastHash (s : List Char) : Prop := ∃ comment, '#' :: comment <:+ s ∧ '\n' ∉ comment

/-- What two readers leave of a text, the second of which had more text behind.  Either that stands
behind the rest too, or, where there can be comments, one in the last line took both readers to the
end. -/
structure Leaves (comments : Bool) (whole t rest rest' : List Char) : Prop where
  suffix : rest <:+ whole
  parts : rest' = rest ++ t ∨ comments = true ∧ HasLastHash whole ∧ rest = [] ∧ rest' = []

/-- What the first reading gives the second gives too, which had more text behind. -/
def Extends {α : Type} (comments : Bool) (whole t : List Char) (a b : Option (α × List Char)) :
    Prop :=
  ∀ x rest, a = some (x, rest) → ∃ rest', b = some (x, rest') ∧ Leaves comments whole t rest rest'

/-- The same of a reading that gives two things. -/
def ExtendsPair {α β : Type} (comments : Bool) (whole t : List Char)
    (a b : Option (α × β × List Char)) : Prop :=
  ∀ x y rest, a = some (x, y, rest) →
    ∃ rest', b = some (x, y, rest') ∧ Leaves comments whole t rest rest'

variable {whole t s rest rest' : List Char} {comments : Bool} (verbose : Bool) {c : Char}

theorem Leaves.refl (t : List Char) (h : rest <:+ whole) :
    Leaves comments whole t rest (rest ++ t) := ⟨h, Or.inl rfl⟩

theorem Leaves.length_le (h : Leaves comments whole t rest rest') :
    rest.length ≤ rest'.length := by
  rcases h.parts with rfl | ⟨-, -, rfl, rfl⟩
  · rw [List.length_append]
    omega
  · exact Nat.le_refl 0

theorem Leaves.cons (h : Leaves comments whole t (c :: rest) rest') :
    rest' = c :: (rest ++ t) := by
  rcases h.parts with h | ⟨-, -, h, -⟩
  · exact h
  · cases h

theorem Leaves.keep (h : Leaves comments whole t (c :: rest) rest') {more : Bool} :
    Leaves more whole t (c :: rest) (c :: rest ++ t) := .refl t h.suffix

theorem Leaves.suffix_tail (h : Leaves comments whole t (c :: rest) rest') : rest <:+ whole :=
  (List.suffix_cons c rest).trans h.suffix

theorem Leaves.tail (h : Leaves comments whole t (c :: rest) rest') {more : Bool} :
    Leaves more whole t rest (rest ++ t) := .refl t h.suffix_tail

theorem Leaves.mono {more : Bool} (h : Leaves comments whole t rest rest')
    (hmore : comments = true → more = true) : Leaves more whole t rest rest' :=
  ⟨h.suffix, h.parts.imp_right fun hlost => ⟨hmore hlost.1, hlost.2⟩⟩

theorem Extends.map {α β : Type} {a b : Option (α × List Char)} (h : Extends comments whole t a b)
    (f : α → β) :
    Extends comments whole t (a.map fun (x, rest) => (f x, rest))
      (b.map fun (x, rest) => (f x, rest)) := by
  intro y rest hy
  obtain ⟨⟨x, left⟩, hx, heq⟩ := Option.map_eq_some_iff.1 hy
  obtain ⟨rfl, rfl⟩ := Prod.mk.inj heq
  obtain ⟨left', hx', hleaves⟩ := h x left hx
  exact ⟨left', by rw [hx']; rfl, hleaves⟩

theorem Extends.none {α : Type} (t : List Char) (b : Option (α × List Char)) :
    Extends comments whole t none b := fun _ _ h => nomatch h

theorem Extends.some {α : Type} (x : α) (h : Leaves comments whole t rest rest') :
    Extends comments whole t (some (x, rest)) (some (x, rest')) := by
  intro y left hy
  obtain ⟨rfl, rfl⟩ := Prod.mk.inj (Option.some.inj hy)
  exact ⟨rest', rfl, h⟩

theorem ExtendsPair.none {α β : Type} (t : List Char) (b : Option (α × β × List Char)) :
    ExtendsPair comments whole t none b := fun _ _ _ h => nomatch h

theorem ExtendsPair.some {α β : Type} (x : α) (y : β) (h : Leaves comments whole t rest rest') :
    ExtendsPair comments whole t (some (x, y, rest)) (some (x, y, rest')) := by
  intro z w left hz
  obtain ⟨rfl, hw⟩ := Prod.mk.inj (Option.some.inj hz)
  obtain ⟨rfl, rfl⟩ := Prod.mk.inj hw
  exact ⟨rest', rfl, h⟩

theorem Extends.of_leaves {α β : Type} (value : Option α) (f : α → β)
    (h : Leaves comments whole t rest rest') :
    Extends comments whole t (value.map fun x => (f x, rest))
      (value.map fun x => (f x, rest')) := by
  cases value with
  | none => exact .none t _
  | some x => exact .some (f x) h

/-- With more text behind there is no other character in front, unless the closing parenthesis. -/
theorem Leaves.head_ne (ht : Closes t) (h : Leaves comments whole t rest rest') (hc : c ≠ ')')
    (hne : ∀ left, rest ≠ c :: left) (left : List Char) : rest' ≠ c :: left := by
  cases rest with
  | nil =>
    obtain ⟨more, rfl⟩ := ht.head
    rcases h.parts with rfl | ⟨-, -, -, rfl⟩
    · exact fun heq => hc (List.cons.inj heq).1.symm
    · exact fun heq => nomatch heq
  | cons d rest =>
    rw [h.cons]
    exact fun heq => hne rest (by rw [(List.cons.inj heq).1])

/-! ### Blank characters and comments -/

theorem skipComments_inComment (h : '\n' ∉ s) : skipComments true s = [] := by
  induction s with
  | nil => rfl
  | cons c s ih =>
    rw [List.mem_cons, not_or] at h
    rw [skipComments, show (c != '\n') = true by simpa using Ne.symm h.1]
    exact ih h.2

theorem skipComments_append (h : Closes t) {inComment : Bool} (hs : s <:+ whole)
    (hcomment : inComment = true → ∃ comment, '#' :: (comment ++ s) <:+ whole ∧ '\n' ∉ comment) :
    Leaves true whole t (skipComments inComment s) (skipComments inComment (s ++ t)) := by
  fun_induction skipComments inComment s with
  | case1 inComment =>
    cases inComment with
    | true =>
      obtain ⟨comment, hhash, hline⟩ := hcomment rfl
      rw [List.append_nil] at hhash
      exact ⟨hs, Or.inr ⟨rfl, ⟨comment, hhash, hline⟩, rfl, skipComments_inComment h.line⟩⟩
    | false =>
      obtain ⟨rest, rfl⟩ := h.head
      exact .refl _ hs
  | case2 c rest ih =>
    obtain ⟨comment, hhash, hline⟩ := hcomment rfl
    refine ih ((List.suffix_cons c rest).trans hs) fun hc => ⟨comment ++ [c], ?_, ?_⟩
    · rwa [List.append_assoc]
    · rw [List.mem_append, List.mem_singleton, not_or]
      exact ⟨hline, fun heq => bne_iff_ne.1 hc heq.symm⟩
  | case3 c rest hblank ih =>
    rw [List.cons_append, skipComments, if_pos hblank]
    exact ih ((List.suffix_cons c rest).trans hs) nofun
  | case4 c rest hblank hhash ih =>
    rw [List.cons_append, skipComments, if_neg hblank, if_pos hhash]
    obtain rfl := beq_iff_eq.1 hhash
    exact ih ((List.suffix_cons _ rest).trans hs) fun _ => ⟨[], hs, List.not_mem_nil⟩
  | case5 c rest hblank hhash =>
    rw [List.cons_append, skipComments, if_neg hblank, if_neg hhash]
    exact .refl t hs

theorem skip_append (h : Closes t) (verbose : Bool) (hs : s <:+ whole) :
    Leaves verbose whole t (skip verbose s) (skip verbose (s ++ t)) := by
  cases verbose with
  | true => exact skipComments_append h hs nofun
  | false => exact .refl t hs

theorem skip_append_of_cons (h : Closes t) (hs : skip verbose s = c :: rest) :
    skip verbose (s ++ t) = c :: (rest ++ t) := by
  have hskip := skip_append h verbose (List.suffix_refl s)
  rw [hs] at hskip
  exact hskip.cons

theorem skip_leaves (hverbose : verbose = true → comments = true) (h : Closes t)
    (hrest : Leaves comments whole t rest rest') :
    Leaves comments whole t (skip verbose rest) (skip verbose rest') := by
  rcases hrest with ⟨hs, rfl | ⟨hcomments, hhash, rfl, rfl⟩⟩
  · exact (skip_append h verbose hs).mono hverbose
  · have hnil : skip verbose [] = [] := by cases verbose <;> rfl
    rw [hnil]
    exact ⟨hs, Or.inr ⟨hcomments, hhash, rfl, rfl⟩⟩

theorem length_skip_le (verbose : Bool) (s : List Char) : (skip verbose s).length ≤ s.length := by
  have hcomments : ∀ inComment, (skipComments inComment s).length ≤ s.length := by
    intro inComment
    fun_induction skipComments inComment s with
    | case1 => exact Nat.le_refl _
    | case2 c rest ih => exact Nat.le_succ_of_le ih
    | case3 c rest _ ih => exact Nat.le_succ_of_le ih
    | case4 c rest _ _ ih => exact Nat.le_succ_of_le ih
    | case5 => exact Nat.le_refl _
  cases verbose with
  | true => exact hcomments false
  | false => exact Nat.le_refl _

theorem trimStart_append (h : Closes t) (s : List Char) :
    trimStart (s ++ t) = trimStart s ++ t := by
  induction s with
  | nil =>
    obtain ⟨rest, rfl⟩ := h.head
    rfl
  | cons c s ih =>
    rw [List.cons_append, trimStart_cons, trimStart_cons, ih]
    split <;> rfl

theorem trimStart_leaves (h : Closes t) (hrest : Leaves comments whole t rest rest') :
    Leaves comments whole t (trimStart rest) (trimStart rest') := by
  refine ⟨(List.dropWhile_suffix isBlank).trans hrest.suffix, ?_⟩
  rcases hrest.parts with rfl | ⟨hcomments, hhash, rfl, rfl⟩
  · exact Or.inl (trimStart_append h rest)
  · exact Or.inr ⟨hcomments, hhash, rfl, rfl⟩

/-! ### Numbers -/

theorem readRun_leaves (h : Closes t) {p : Char → Bool} (hp : p ')' = false) {fuel fuel' : Nat}
    (hfuel : rest.length < fuel) (hfuel' : rest'.length < fuel')
    (hrest : Leaves verbose whole t rest rest') :
    ∃ left, readRun p verbose fuel' rest' = ((readRun p verbose fuel rest).1, left) ∧
      Leaves verbose whole t (readRun p verbose fuel rest).2 left := by
  induction fuel generalizing rest rest' fuel' with
  | zero => omega
  | succ fuel ih =>
    obtain ⟨fuel', rfl⟩ := Nat.exists_eq_succ_of_ne_zero (by omega : fuel' ≠ 0)
    cases rest with
    | nil =>
      refine ⟨rest', ?_, hrest⟩
      rcases hrest.parts with rfl | ⟨-, -, -, rfl⟩
      · obtain ⟨more, rfl⟩ := h.head
        simp only [readRun, hp, Bool.false_eq_true, if_false]
      · rfl
    | cons c s =>
      obtain rfl := hrest.cons
      have hlength := length_skip_le verbose s
      have hlength' := length_skip_le verbose (s ++ t)
      rw [List.length_cons] at hfuel hfuel'
      have hfew : (skip verbose s).length < fuel := by omega
      have hfew' : (skip verbose (s ++ t)).length < fuel' := by omega
      obtain ⟨left, hread, hleaves⟩ := ih hfew hfew' (skip_leaves verbose id h hrest.tail)
      simp only [readRun, hread]
      split
      · exact ⟨left, rfl, hleaves⟩
      · exact ⟨_, rfl, hrest.keep⟩

theorem readCount_nil (verbose : Bool) : readCount verbose [] = (none, []) := rfl

theorem readCount_leaves (h : Closes t) (hrest : Leaves verbose whole t rest rest') :
    ∃ left, readCount verbose rest' = ((readCount verbose rest).1, left) ∧
      Leaves verbose whole t (readCount verbose rest).2 left := by
  rcases hrest with ⟨hs, rfl | ⟨hcomments, hhash, rfl, rfl⟩⟩
  · have htrim : ∀ s : List Char, (trimStart s).length < s.length + 1 := fun s =>
      Nat.lt_succ_of_le (List.dropWhile_sublist isBlank).length_le
    have hlength' := htrim (rest ++ t)
    rw [trimStart_append h] at hlength'
    obtain ⟨left, hdigits, hleaves⟩ := readRun_leaves verbose h
      (p := Char.isDigit) rfl (htrim rest) hlength'
      (.refl t ((List.dropWhile_suffix isBlank).trans hs))
    simp only [readCount, trimStart_append h, hdigits]
    exact ⟨_, rfl, trimStart_leaves h hleaves⟩
  · exact ⟨_, rfl, hs, Or.inr ⟨hcomments, hhash, rfl, rfl⟩⟩

theorem readMost_leaves (h : Closes t) (least : Nat) (hrest : Leaves verbose whole t rest rest') :
    Extends verbose whole t (readMost verbose least rest) (readMost verbose least rest') := by
  cases rest with
  | nil =>
    have hread : readMost verbose least rest' = some ((least, some least), rest') := by
      rcases hrest.parts with rfl | ⟨-, -, -, rfl⟩
      · obtain ⟨more, rfl⟩ := h.head
        rfl
      · rfl
    rw [hread]
    exact .some _ hrest
  | cons c left =>
    obtain rfl := hrest.cons
    by_cases hc : c = ','
    · subst hc
      simp only [readMost]
      cases hskip : skip verbose left with
      | nil =>
        simp only [readCount_nil]
        exact .none t _
      | cons d next =>
        have hnext := skip_leaves verbose id h hrest.tail
        rw [hskip] at hnext
        rw [skip_append_of_cons verbose h hskip]
        by_cases hd : d = '}'
        · subst hd
          exact .some _ hnext.keep
        · simp only [List.cons.injEq, hd, false_and, false_implies, implies_true]
          obtain ⟨left, hread, hleaves⟩ :=
            readCount_leaves verbose h hnext.keep
          rw [List.cons_append] at hread
          rw [hread]
          generalize readCount verbose (d :: next) = first at hleaves
          obtain ⟨_ | most, next⟩ := first
          · exact .none t _
          · simp only
            split
            · exact .some _ hleaves
            · exact .none t _
    · simp only [readMost, List.cons.injEq, hc, false_and, false_implies, implies_true]
      exact .some _ hrest.keep

theorem readGreed_leaves (h : Closes t) (hrest : Leaves comments whole t rest rest') :
    ∃ left, readGreed rest' = ((readGreed rest).1, left) ∧
      Leaves comments whole t (readGreed rest).2 left := by
  cases rest with
  | nil =>
    refine ⟨rest', ?_, hrest⟩
    rcases hrest.parts with rfl | ⟨-, -, -, rfl⟩
    · obtain ⟨more, rfl⟩ := h.head
      rfl
    · rfl
  | cons c left =>
    obtain rfl := hrest.cons
    by_cases hc : c = '?'
    · subst hc
      exact ⟨_, rfl, hrest.tail⟩
    · simp only [readGreed, List.cons.injEq, hc, false_and, false_implies, implies_true]
      exact ⟨_, rfl, hrest.keep⟩

theorem readGreed_extends (h : Closes t) {α : Type} (x : α)
    (hrest : Leaves comments whole t rest rest') :
    ExtendsPair comments whole t (some (x, readGreed rest)) (some (x, readGreed rest')) := by
  obtain ⟨left, hread, hleaves⟩ := readGreed_leaves h hrest
  rw [hread]
  exact .some x _ hleaves

theorem readBounds_leaves (h : Closes t) (hrest : Leaves verbose whole t rest rest') :
    ExtendsPair verbose whole t (readBounds verbose rest) (readBounds verbose rest') := by
  obtain ⟨most, hcount, hmost⟩ := readCount_leaves verbose h (skip_leaves verbose id h hrest)
  unfold readBounds
  rw [hcount]
  generalize readCount verbose (skip verbose rest) = first at hmost
  obtain ⟨_ | least, next⟩ := first
  · exact .none t _
  · have hextends := readMost_leaves verbose h least hmost
    intro bounds greedy left hs
    simp only at hs ⊢
    split at hs
    · rename_i bounds' close hread
      obtain ⟨after, hread', hafter⟩ := hextends _ _ hread
      obtain rfl := hafter.cons
      simp only [hread']
      exact readGreed_extends h bounds' (skip_leaves verbose id h hafter.tail) bounds greedy left hs
    · cases hs

/-! ### Escapes -/

theorem readHexDigits_leaves (h : Closes t) (count : Nat)
    (hrest : Leaves verbose whole t rest rest') :
    Extends verbose whole t (readHexDigits verbose count rest)
      (readHexDigits verbose count rest') := by
  induction count generalizing rest rest' with
  | zero => exact .some _ hrest
  | succ count ih =>
    cases rest with
    | nil => exact .none t _
    | cons c left =>
      obtain rfl := hrest.cons
      have hextends := ih (skip_leaves verbose id h hrest.tail)
      simp only [readHexDigits]
      cases hexDigit? c with
      | none => exact .none t _
      | some digit =>
        intro digits after hs
        split at hs
        · rename_i hread
          obtain ⟨after', hread', hleaves⟩ := hextends _ _ hread
          obtain ⟨rfl, rfl⟩ := Prod.mk.inj (Option.some.inj hs)
          rw [hread']
          exact ⟨after', rfl, hleaves⟩
        · cases hs

theorem readBracedHex_leaves (h : Closes t) {fuel fuel' : Nat} (hfuel : fuel ≤ fuel')
    (hrest : Leaves verbose whole t rest rest') :
    Extends verbose whole t (readBracedHex verbose fuel rest)
      (readBracedHex verbose fuel' rest') := by
  induction fuel generalizing rest rest' fuel' with
  | zero => exact .none t _
  | succ fuel ih =>
    obtain ⟨fuel', rfl⟩ := Nat.exists_eq_succ_of_ne_zero (by omega : fuel' ≠ 0)
    have hskip := skip_leaves verbose id h hrest
    simp only [readBracedHex]
    cases hleft : skip verbose rest with
    | nil => exact .none t _
    | cons c left =>
      rw [hleft] at hskip
      rw [hskip.cons]
      by_cases hc : c = '}'
      · subst hc
        exact .some _ (skip_leaves verbose id h hskip.tail)
      · simp only
        have hextends := ih (Nat.le_of_succ_le_succ hfuel) hskip.tail
        cases hexDigit? c with
        | none => exact .none t _
        | some digit =>
          intro digits after hs
          split at hs
          · rename_i hread
            obtain ⟨after', hread', hleaves⟩ := hextends _ _ hread
            obtain ⟨rfl, rfl⟩ := Prod.mk.inj (Option.some.inj hs)
            rw [hread']
            exact ⟨after', rfl, hleaves⟩
          · cases hs

theorem readHex_leaves (h : Closes t) (width : Nat) (hrest : Leaves verbose whole t rest rest') :
    Extends verbose whole t (readHex verbose width rest) (readHex verbose width rest') := by
  have hskip := skip_leaves verbose id h hrest
  intro e after hs
  unfold readHex at hs ⊢
  split at hs
  · rename_i left hleft
    rw [hleft] at hskip
    rw [hskip.cons]
    have hextends := readBracedHex_leaves verbose h
      (Nat.succ_le_succ (left.prefix_append t).length_le) hskip.tail
    simp only
    split at hs
    · rename_i digits next hread
      obtain ⟨next', hread', hleaves⟩ := hextends _ _ hread
      simp only [hread']
      split at hs
      · cases hs
      · rename_i hdigits
        rw [if_neg hdigits]
        exact Extends.of_leaves _ _ hleaves e after hs
    · cases hs
  · rename_i hbrace
    have hbrace' := hskip.head_ne h (by decide) hbrace
    simp only
    have hextends := readHexDigits_leaves verbose h width hskip
    split at hs
    · rename_i digits next hread
      obtain ⟨next', hread', hleaves⟩ := hextends _ _ hread
      simp only [hread']
      exact Extends.of_leaves _ _ hleaves e after hs
    · cases hs

theorem readBracedName_leaves (h : Closes t) {fuel fuel' : Nat} (hfuel : fuel ≤ fuel')
    (hrest : Leaves verbose whole t rest rest') :
    Extends verbose whole t (readBracedName verbose fuel rest)
      (readBracedName verbose fuel' rest') := by
  induction fuel generalizing rest rest' fuel' with
  | zero => exact .none t _
  | succ fuel ih =>
    obtain ⟨fuel', rfl⟩ := Nat.exists_eq_succ_of_ne_zero (by omega : fuel' ≠ 0)
    have hskip := skip_leaves verbose id h hrest
    simp only [readBracedName]
    cases hleft : skip verbose rest with
    | nil => exact .none t _
    | cons c left =>
      rw [hleft] at hskip
      rw [hskip.cons]
      by_cases hc : c = '}'
      · subst hc
        exact .some _ hskip.tail
      · simp only
        exact (ih (Nat.le_of_succ_le_succ hfuel) hskip.tail).map _

theorem readProperty_leaves (h : Closes t) (hrest : Leaves verbose whole t rest rest') :
    Extends verbose whole t (readProperty verbose rest) (readProperty verbose rest') := by
  have hskip := skip_leaves verbose id h hrest
  unfold readProperty
  cases hleft : skip verbose rest with
  | nil => exact .none t _
  | cons c left =>
    rw [hleft] at hskip
    rw [hskip.cons]
    by_cases hbrace : c = '\x7b'
    · subst hbrace
      exact (readBracedName_leaves verbose h (Nat.succ_le_succ (left.prefix_append t).length_le)
        hskip.tail).map _
    · by_cases hescape : c = '\\'
      · subst hescape
        exact .none t _
      · simp only
        exact .some _ (skip_leaves verbose id h hskip.tail)

theorem readBoundary_leaves (h : Closes t) (hrest : Leaves verbose whole t rest rest') :
    Extends verbose whole t (readBoundary verbose rest) (readBoundary verbose rest') := by
  intro a after hs
  unfold readBoundary at hs ⊢
  split at hs
  · rename_i s
    have hnext := skip_leaves verbose id h hrest.tail
    rw [hrest.cons]
    simp only
    cases hskip : skip verbose s with
    | nil =>
      rw [hskip] at hs
      cases hs
    | cons c left =>
      rw [hskip] at hs hnext
      rw [skip_append_of_cons verbose h hskip]
      simp only at hs ⊢
      split at hs
      · rename_i hname
        rw [if_pos hname]
        have hlength : ∀ s : List Char, (c :: s).length < s.length + 2 := fun s =>
          Nat.lt_succ_self (s.length + 1)
        obtain ⟨close, hrun, hclose⟩ := readRun_leaves verbose h (p := isBoundaryNamePart) rfl
          (hlength left) (hlength (left ++ t)) hnext.keep
        rw [hrun]
        split at hs
        · rename_i name next hread
          rw [hread] at hclose ⊢
          rw [hclose.cons]
          exact Extends.of_leaves _ _ hclose.tail a after hs
        · cases hs
      · rename_i hname
        rw [if_neg hname]
        exact Extends.some _ hrest.keep a after hs
  · rename_i hbrace
    have hbrace' := hrest.head_ne h (by decide) hbrace
    simp only
    exact Extends.some _ hrest a after hs

theorem readEscape_leaves (h : Closes t) (hrest : Leaves verbose whole t rest rest') :
    Extends verbose whole t (readEscape verbose rest) (readEscape verbose rest') := by
  cases rest with
  | nil => exact .none t _
  | cons c left =>
    have hleft : Leaves verbose whole t left (left ++ t) := hrest.tail
    rw [hrest.cons, readEscape, readEscape]
    split
    · exact .none t _
    split
    · exact readHex_leaves verbose h 2 hleft
    split
    · exact readHex_leaves verbose h 4 hleft
    split
    · exact readHex_leaves verbose h 8 hleft
    split
    · exact (readProperty_leaves verbose h hleft).map fun name => Expr.property name (c == 'P')
    split
    · exact .some _ hleft
    split
    · exact (readBoundary_leaves verbose h hleft).map _
    · exact .of_leaves _ _ hleft

/-! ### Sets in brackets -/

/-- Where a character stops a run, the run is the same with more text behind. -/
theorem run_append {p : Char → Bool} (hs : s.dropWhile p = c :: rest) (t : List Char) :
    (s ++ t).dropWhile p = c :: (rest ++ t) ∧ (s ++ t).takeWhile p = s.takeWhile p := by
  have hlength := congrArg List.length (s.takeWhile_append_dropWhile (p := p))
  rw [List.length_append, hs, List.length_cons] at hlength
  refine ⟨?_, ?_⟩
  · rw [List.dropWhile_append, hs]
    rfl
  · rw [List.takeWhile_append, if_neg (by omega)]

theorem readClassName_append (h : Closes t) (negated : Bool) (s : List Char) :
    readClassName negated (s ++ t) =
      (readClassName negated s).map fun (item, rest) => (item, rest ++ t) := by
  have hcolon : t.dropWhile (· != ':') = [] := by
    rw [List.dropWhile_eq_nil_iff]
    rintro c hc
    exact bne_iff_ne.2 fun heq => h.colon (heq ▸ hc)
  unfold readClassName
  cases hdrop : s.dropWhile (· != ':') with
  | nil => simp [List.dropWhile_append, hdrop, hcolon]
  | cons c left =>
    obtain ⟨hdrop', htake⟩ := run_append hdrop t
    rw [hdrop', htake]
    obtain ⟨more, rfl⟩ := h.head
    cases left with
    | nil => simp
    | cons d after =>
      by_cases hclose : c = ':' ∧ d = ']'
      · obtain ⟨rfl, rfl⟩ := hclose
        simp only [List.cons_append, Option.map_map]
        rfl
      · have hnone : ∀ after, ∀ left, c :: d :: after ≠ ':' :: ']' :: left := fun _ _ heq =>
          hclose ⟨(List.cons.inj heq).1, (List.cons.inj (List.cons.inj heq).2).1⟩
        split
        · rename_i heq
          exact absurd heq (hnone _ _)
        · split
          · rename_i heq
            exact absurd heq (hnone _ _)
          · rfl

theorem readNamedClass_append (h : Closes t) (s : List Char) :
    readNamedClass (s ++ t) = (readNamedClass s).map fun (item, rest) => (item, rest ++ t) := by
  obtain ⟨more, rfl⟩ := h.head
  match s with
  | [] => rfl
  | [c] =>
    by_cases hc : c = ':'
    · subst hc
      exact readClassName_append h false []
    · simp [readNamedClass, hc]
  | c :: d :: s =>
    by_cases hc : c = ':'
    · subst hc
      by_cases hd : d = '^'
      · subst hd
        exact readClassName_append h true s
      · have hread : ∀ s, readNamedClass (':' :: d :: s) = readClassName false (d :: s) :=
          fun s => by simp [readNamedClass, hd]
        rw [List.cons_append, List.cons_append, hread, hread]
        exact readClassName_append h false (d :: s)
    · simp [readNamedClass, hc]

theorem readClassName_suffix {negated : Bool} {named : SetExpr × List Char}
    (h : readClassName negated s = some named) : named.2 <:+ s := by
  unfold readClassName at h
  split at h
  · rename_i after hdrop
    obtain ⟨kind, -, rfl⟩ := Option.map_eq_some_iff.1 h
    have hafter : after <:+ s.dropWhile (· != ':') := by
      rw [hdrop]
      exact List.suffix_append [':', ']'] after
    exact hafter.trans (List.dropWhile_suffix _)
  · cases h

theorem readNamedClass_suffix {named : SetExpr × List Char} (h : readNamedClass s = some named) :
    named.2 <:+ s := by
  unfold readNamedClass at h
  split at h
  · exact (readClassName_suffix h).trans (List.suffix_append [':', '^'] _)
  · exact (readClassName_suffix h).trans (List.suffix_cons ':' _)
  · cases h

theorem peekBlank_append (h : Closes t) (hash : Bool) (s : List Char) :
    peekBlank hash (s ++ t) = (peekBlank hash s).or (some ')') := by
  obtain ⟨more, rfl⟩ := h.head
  fun_induction peekBlank hash s with
  | case1 hash => simp [peekBlank, show isBlank ')' = false from rfl]
  | case2 hash c rest hblank ih => rw [List.cons_append, peekBlank, if_pos hblank, ih]
  | case3 hash c rest hblank hhash ih =>
    rw [List.cons_append, peekBlank, if_neg hblank, if_pos hhash, ih]
  | case4 hash c rest hblank hhash =>
    rw [List.cons_append, peekBlank, if_neg hblank, if_neg hhash]
    rfl

/-- Where nothing is seen behind blank characters, the text starts with one of them. -/
theorem head?_ne_of_peekBlank (hs : peekBlank false s = none) (hblank : isBlank c = false)
    (hhash : c ≠ '#') : s.head? ≠ some c := by
  cases s with
  | nil => exact nofun
  | cons d s =>
    rintro heq
    obtain rfl := Option.some.inj heq
    simp [peekBlank, hblank, hhash] at hs

theorem peekAfterHyphen_append (h : Closes t) (hblank : isBlank c = false) (hhash : c ≠ '#')
    (hclose : c ≠ ')') (s : List Char) :
    (peekAfterHyphen verbose (s ++ t) == some c) = (peekAfterHyphen verbose s == some c) := by
  have hclose' : (some ')' == some c) = false := by simpa using Ne.symm hclose
  cases verbose with
  | true =>
    simp only [peekAfterHyphen, if_true, peekBlank_append h]
    cases hs : peekBlank false s with
    | some d => rfl
    | none =>
      have hhead := head?_ne_of_peekBlank hs hblank hhash
      simp only [Option.or, hclose']
      exact (beq_false_of_ne hhead).symm
  | false =>
    cases s with
    | nil =>
      obtain ⟨more, rfl⟩ := h.head
      exact hclose'
    | cons d s => rfl

theorem readMember_leaves (h : Closes t) (hrest : Leaves verbose whole t rest rest') :
    Extends verbose whole t (readMember verbose rest) (readMember verbose rest') := by
  cases rest with
  | nil => exact .none t _
  | cons c left =>
    rw [hrest.cons]
    by_cases hc : c = '\\'
    · subst hc
      exact readEscape_leaves verbose h hrest.tail
    · simp only [readMember]
      exact .some _ hrest.tail

theorem readRange_leaves (h : Closes t) (hrest : Leaves verbose whole t rest rest') :
    Extends verbose whole t (readRange verbose rest) (readRange verbose rest') := by
  intro item after hs
  unfold readRange at hs ⊢
  split at hs
  · cases hs
  · rename_i first next hread
    obtain ⟨next', hread', hnext⟩ := readMember_leaves verbose h hrest _ _ hread
    have hskip := skip_leaves verbose id h hnext
    simp only [hread']
    cases hleft : skip verbose next with
    | nil =>
      rw [hleft] at hs
      cases hs
    | cons c left =>
      rw [hleft] at hs hskip
      rw [hskip.cons]
      by_cases hc : c = '-'
      · subst hc
        have hclose := peekAfterHyphen_append verbose (c := ']') h rfl (by decide)
          (by decide) left
        have hhyphen := peekAfterHyphen_append verbose (c := '-') h rfl (by decide)
          (by decide) left
        simp only [hclose, hhyphen] at hs ⊢
        split at hs
        · rename_i hpeek
          rw [if_pos hpeek]
          exact Extends.of_leaves _ _ hskip.keep item after hs
        · rename_i hpeek
          rw [if_neg hpeek]
          have hlast := readMember_leaves verbose h (skip_leaves verbose id h hskip.tail)
          split at hs
          · cases hs
          · rename_i last final hread
            obtain ⟨final', hread', hfinal⟩ := hlast _ _ hread
            simp only [hread']
            split at hs
            · split at hs
              · rename_i hle
                simp only [if_pos hle]
                exact Extends.some _ hfinal item after hs
              · cases hs
            · cases hs
      · simp only [List.cons.injEq, hc, false_and, false_implies, implies_true] at hs ⊢
        exact Extends.of_leaves _ _ hskip.keep item after hs

theorem readCaret_leaves (h : Closes t) (hrest : Leaves verbose whole t rest rest') :
    ∃ left, readCaret verbose rest' = ((readCaret verbose rest).1, left) ∧
      Leaves verbose whole t (readCaret verbose rest).2 left := by
  have hskip := skip_leaves verbose id h hrest
  unfold readCaret
  by_cases hcaret : ∃ left, skip verbose rest = '^' :: left
  · obtain ⟨left, hleft⟩ := hcaret
    rw [hleft] at hskip ⊢
    rw [hskip.cons]
    exact ⟨_, rfl, skip_leaves verbose id h hskip.tail⟩
  · have hne : ∀ left, skip verbose rest ≠ '^' :: left := fun left heq => hcaret ⟨left, heq⟩
    have hne' := hskip.head_ne h (by decide) hne
    simp only
    exact ⟨_, rfl, hskip⟩

theorem readSetStart_leaves (h : Closes t) (hrest : Leaves verbose whole t rest rest') :
    ∃ left, readSetStart verbose rest' =
        ((readSetStart verbose rest).1, (readSetStart verbose rest).2.1, left) ∧
      Leaves verbose whole t (readSetStart verbose rest).2.2 left := by
  obtain ⟨next', hcaret, hnext⟩ := readCaret_leaves verbose h hrest
  simp only [readSetStart, hcaret]
  generalize readCaret verbose rest = caret at hnext
  obtain ⟨negated, next⟩ := caret
  obtain ⟨close', hrun, hclose⟩ := readRun_leaves verbose h (p := (· == '-')) rfl
    (Nat.lt_succ_self next.length) (Nat.lt_succ_self next'.length) hnext
  simp only [hrun]
  generalize readRun (· == '-') verbose (next.length + 1) next = run at hclose
  obtain ⟨hyphens, close⟩ := run
  cases hyphens with
  | cons c hyphens => exact ⟨_, rfl, hclose⟩
  | nil =>
    cases close with
    | nil =>
      refine ⟨close', ?_, hclose⟩
      rcases hclose.parts with rfl | ⟨-, -, -, rfl⟩
      · obtain ⟨more, rfl⟩ := h.head
        rfl
      · rfl
    | cons c left =>
      rw [hclose.cons]
      by_cases hc : c = ']'
      · subst hc
        exact ⟨_, rfl, skip_leaves verbose id h hclose.tail⟩
      · simp only [List.map_nil, List.cons.injEq, hc, false_and, imp_false, not_false_eq_true,
          implies_true]
        exact ⟨_, rfl, hclose.keep⟩

theorem readOperation_append (h : Closes t) (s : List Char) :
    readOperation (s ++ t) =
      (readOperation s).map fun (operation, rest) => (operation, rest ++ t) := by
  obtain ⟨more, rfl⟩ := h.head
  match s with
  | [] => rfl
  | [c] => simp [readOperation]
  | c :: d :: s =>
    unfold readOperation
    split <;> simp_all

theorem readOperation_suffix {operation : SetOperation × List Char}
    (h : readOperation s = some operation) : operation.2 <:+ s := by
  unfold readOperation at h
  split at h
  · cases h
    exact List.suffix_append ['&', '&'] _
  · cases h
    exact List.suffix_append ['-', '-'] _
  · cases h
    exact List.suffix_append ['~', '~'] _
  · cases h

theorem readSet_leaves (h : Closes t) {fuel fuel' : Nat} (hfuel : fuel ≤ fuel')
    (before : Option (SetOperation × SetExpr)) (items : List SetExpr)
    (hrest : Leaves verbose whole t rest rest') :
    Extends verbose whole t (readSet verbose fuel before items rest)
      (readSet verbose fuel' before items rest') := by
  induction fuel generalizing rest rest' fuel' before items with
  | zero => exact .none t _
  | succ fuel ih =>
    obtain ⟨fuel', rfl⟩ := Nat.exists_eq_succ_of_ne_zero (by omega : fuel' ≠ 0)
    replace hfuel := Nat.le_of_succ_le_succ hfuel
    have hskip := skip_leaves verbose id h hrest
    intro e after hs
    -- a set does not end with its text, so the text behind is never reached
    simp only [readSet] at hs ⊢
    cases hleft : skip verbose rest with
    | nil =>
      rw [hleft] at hs
      cases hs
    | cons c left =>
      rw [hleft] at hs hskip
      rw [hskip.cons]
      by_cases hclose : c = ']'
      · subst hclose
        exact Extends.some _ hskip.tail e after hs
      by_cases hopen : c = '['
      · subst hopen
        -- the name of a class is looked for first, and where there is none a set is opened
        simp only [readNamedClass_append h] at hs ⊢
        cases hname : readNamedClass left with
        | some named =>
          rw [hname] at hs
          have hnamed : named.2 <:+ whole :=
            (readNamedClass_suffix hname).trans hskip.suffix_tail
          exact ih hfuel before _ (.refl t hnamed) e after hs
        | none =>
          rw [hname] at hs
          obtain ⟨start', hstart, hnext⟩ :=
            readSetStart_leaves verbose h hskip.tail
          simp only [Option.map_none, hstart] at hs ⊢
          generalize readSetStart verbose left = start at hs hnext
          split at hs
          · rename_i inner close hinner
            obtain ⟨close', hinner', hafter⟩ := ih hfuel none _ hnext _ _ hinner
            simp only [hinner']
            exact ih hfuel before _ hafter e after hs
          · cases hs
      · simp only [List.cons.injEq, hclose, hopen, false_and, false_implies, implies_true] at hs ⊢
        rw [← List.cons_append, readOperation_append h]
        cases hoperation : readOperation (c :: left) with
        | some operation =>
          rw [hoperation] at hs
          have hnext : operation.2 <:+ whole :=
            (readOperation_suffix hoperation).trans hskip.suffix
          exact ih hfuel _ _ (.refl t hnext) e after hs
        | none =>
          rw [hoperation] at hs
          simp only [Option.map_none] at hs ⊢
          split at hs
          · rename_i item next hread
            obtain ⟨next', hread', hnext⟩ :=
              readRange_leaves verbose h hskip.keep _ _ hread
            simp only [hread']
            exact ih hfuel before _ hnext e after hs
          · cases hs

theorem readBracketed_leaves (h : Closes t) (hrest : Leaves verbose whole t rest rest') :
    Extends verbose whole t (readBracketed verbose rest) (readBracketed verbose rest') := by
  obtain ⟨start', hstart, hnext⟩ := readSetStart_leaves verbose h hrest
  simp only [readBracketed, hstart]
  generalize readSetStart verbose rest = start at hnext
  exact (readSet_leaves verbose h (Nat.succ_le_succ hnext.length_le) none _ hnext).map _

end FormRules.Pattern
