import FormRules.Proofs.Pattern.Reader

/-!
# Reading a whole body with more behind it

A body is read step by step, and `BodyStep` says what a step can be.  `BodyStep.leaves` carries the
readers of the parts over to a step, and `readBody_leaves` to a whole body: what reads to its end
also reads up to a closing parenthesis that follows it, with the same result.
-/

namespace FormRules.Pattern

variable {whole t s rest rest' : List Char} {comments : Bool}

/-! ### Groups -/

theorem readFlags_append (t : List Char) (negated dangling : Bool) (changes : FlagChanges)
    (hs : s <:+ whole) :
    Extends comments whole t (readFlags negated dangling changes s)
      (readFlags negated dangling changes (s ++ t)) := by
  fun_induction readFlags negated dangling changes s with
  | case1 => exact .none t _
  | case2 => exact .none t _
  | case3 negated dangling changes c rest hend hdangling =>
    rw [List.cons_append, readFlags, if_pos hend, if_neg hdangling]
    exact .some _ (.refl t hs)
  | case4 => exact .none t _
  | case5 negated dangling changes c rest hend hminus hnegated ih =>
    rw [List.cons_append, readFlags, if_neg hend, if_pos hminus, if_neg hnegated]
    exact ih ((List.suffix_cons c rest).trans hs)
  | case6 => exact .none t _
  | case7 => exact .none t _
  | case8 negated dangling changes c rest hend hminus flag hflag hnew ih =>
    rw [List.cons_append, readFlags, if_neg hend, if_neg hminus, hflag]
    simp only [if_neg hnew]
    exact ih ((List.suffix_cons c rest).trans hs)

theorem readGroupName_append (t : List Char) (hs : s <:+ whole) :
    Extends comments whole t (readGroupName s) (readGroupName (s ++ t)) := by
  intro name after hread
  cases s with
  | nil => cases hread
  | cons c left =>
    simp only [readGroupName, List.cons_append] at hread ⊢
    split at hread
    · rename_i hstart
      rw [if_pos hstart]
      split at hread
      · rename_i close hdrop
        obtain ⟨hdrop', htake⟩ := run_append hdrop t
        have hclose : '>' :: close <:+ left := by
          rw [← hdrop]
          exact List.dropWhile_suffix _
        have hafter : close <:+ whole :=
          (List.suffix_cons _ close).trans (hclose.trans ((List.suffix_cons c left).trans hs))
        rw [hdrop', htake]
        exact Extends.some _ (.refl t hafter) name after hread
      · cases hread
    · cases hread

theorem openNamed_append (t : List Char) (state : ReaderState) (hs : s <:+ whole) :
    ExtendsPair comments whole t (openNamed state s) (openNamed state (s ++ t)) := by
  have hname : Extends comments whole t _ _ := readGroupName_append t hs
  unfold openNamed
  cases hread : readGroupName s with
  | none => exact .none t _
  | some named =>
    obtain ⟨name, left⟩ := named
    obtain ⟨left', hread', hleaves⟩ := hname name left hread
    simp only [hread']
    split
    · exact .none t _
    · exact .some _ _ hleaves

theorem openFlagged_append (t : List Char) (state : ReaderState) (hs : s <:+ whole) :
    ExtendsPair comments whole t (openFlagged state s) (openFlagged state (s ++ t)) := by
  have hflags : Extends comments whole t _ _ := readFlags_append t false false [] hs
  intro opening inner after h
  unfold openFlagged at h ⊢
  split at h
  · rename_i changes left hread
    obtain ⟨left', hread', hleaves⟩ := hflags _ _ hread
    obtain rfl := hleaves.cons
    simp only [hread']
    split at h
    · cases h
    · rename_i hne
      rw [if_neg hne]
      exact ExtendsPair.some _ _ hleaves.tail opening inner after h
  · rename_i changes left hread
    obtain ⟨left', hread', hleaves⟩ := hflags _ _ hread
    obtain rfl := hleaves.cons
    simp only [hread']
    exact ExtendsPair.some _ _ hleaves.tail opening inner after h
  · cases h

theorem readExtension_append (h : Closes t) (state : ReaderState) (hs : s <:+ whole) :
    ExtendsPair comments whole t (readExtension state s) (readExtension state (s ++ t)) := by
  cases s with
  | nil => exact .none t _
  | cons c s =>
    have htail : s <:+ whole := (List.suffix_cons c s).trans hs
    by_cases hangle : c = '<'
    · subst hangle
      cases s with
      | nil => exact .none t _
      | cons d s =>
        by_cases hahead : d = '='
        · subst hahead
          exact .none t _
        by_cases hnot : d = '!'
        · subst hnot
          exact .none t _
        have hread : ∀ s, readExtension state ('<' :: d :: s) = openNamed state (d :: s) :=
          fun s => by simp [readExtension, hahead, hnot]
        rw [List.cons_append, List.cons_append, hread, hread]
        exact openNamed_append t state htail
    have hread : ∀ s, (∀ left, c = 'P' → s ≠ '<' :: left) →
        readExtension state (c :: s) = openFlagged state (c :: s) := by
      intro s hs
      unfold readExtension
      split <;> simp_all
    by_cases hnamed : ∃ left, c = 'P' ∧ s = '<' :: left
    · obtain ⟨left, rfl, rfl⟩ := hnamed
      exact openNamed_append t state ((List.suffix_cons _ left).trans htail)
    · have hne : ∀ left, c = 'P' → s ≠ '<' :: left := fun left hc hs => hnamed ⟨left, hc, hs⟩
      have hleaves : Leaves false whole t s (s ++ t) := .refl t htail
      rw [List.cons_append, hread s hne, hread (s ++ t) fun left hc =>
        hleaves.head_ne h (by decide) (fun left => hne left hc) left]
      exact openFlagged_append t state hs

theorem readOpening_leaves (h : Closes t) (state : ReaderState)
    (hrest : Leaves state.verbose whole t rest rest') :
    ExtendsPair state.verbose whole t (readOpening state rest) (readOpening state rest') := by
  have hskip := skip_leaves state.verbose id h hrest
  unfold readOpening
  by_cases hquestion : ∃ left, skip state.verbose rest = '?' :: left
  · obtain ⟨left, hleft⟩ := hquestion
    rw [hleft] at hskip ⊢
    rw [hskip.cons]
    exact readExtension_append h state hskip.suffix_tail
  · have hne : ∀ left, skip state.verbose rest ≠ '?' :: left := fun left hs =>
      hquestion ⟨left, hs⟩
    have hne' := hskip.head_ne h (by decide) hne
    simp only
    exact .some _ _ hskip

/-! ### Items -/

theorem readRepetition_leaves (h : Closes t) (verbose : Bool) (c : Char)
    (hrest : Leaves verbose whole t rest rest') :
    ExtendsPair verbose whole t (readRepetition verbose c rest)
      (readRepetition verbose c rest') := by
  unfold readRepetition
  split
  · exact readGreed_extends h _ hrest
  · exact readGreed_extends h _ hrest
  · exact readGreed_extends h _ hrest
  · exact readBounds_leaves verbose h hrest

theorem readItem_leaves (h : Closes t) (verbose : Bool) (c : Char)
    (hrest : Leaves verbose whole t rest rest') :
    Extends verbose whole t (readItem verbose c rest) (readItem verbose c rest') := by
  unfold readItem
  split
  · exact readBracketed_leaves verbose h hrest
  · exact readEscape_leaves verbose h hrest
  · exact .some _ hrest
  · exact .some _ hrest
  · exact .some _ hrest
  · exact .some _ hrest

/-! ### How a reading goes on -/

/-- A character that begins a part of a pattern which is no group. -/
structure StartsItem (c : Char) : Prop where
  ne_close : c ≠ ')'
  ne_bar : c ≠ '|'
  ne_open : c ≠ '('
  not_repetition : isRepetition c = false

/-- What a body is read as whose blank characters in front have been passed over.  The first
character says which reader comes next, and the rest is read with what that one adds. -/
inductive BodyStep (fuel : Nat) (state : ReaderState) (branches items : List Expr) :
    List Char → Expr × ReaderState × List Char → Prop
  | stop : BodyStep fuel state branches items [] (closeBranches branches items, state, [])
  | close (rest : List Char) : BodyStep fuel state branches items (')' :: rest)
      (closeBranches branches items, state, ')' :: rest)
  | bar {rest : List Char} {result : Expr × ReaderState × List Char}
      (hrest : readBody fuel state (Expr.ofItems items.reverse :: branches) [] rest = some result) :
      BodyStep fuel state branches items ('|' :: rest) result
  | flags {rest left : List Char} {changes : FlagChanges} {inner : ReaderState}
      {result : Expr × ReaderState × List Char}
      (hopening : readOpening state rest = some (.setFlags changes, inner, left))
      (hleft : readBody fuel inner branches (.setFlags changes :: items) left = some result) :
      BodyStep fuel state branches items ('(' :: rest) result
  | group {rest inside left : List Char} {g : Group} {inner after : ReaderState} {e : Expr}
      {result : Expr × ReaderState × List Char}
      (hopening : readOpening state rest = some (.group g, inner, inside))
      (hinside : readBody fuel inner [] [] inside = some (e, after, ')' :: left))
      (hleft : readBody fuel ⟨state.verbose, after.groups, after.names⟩ branches
        (g.around e :: items) left = some result) :
      BodyStep fuel state branches items ('(' :: rest) result
  | repetition {c : Char} {rest left : List Char} {min : Nat} {max : Option Nat} {greedy : Bool}
      {items' : List Expr} {result : Expr × ReaderState × List Char}
      (hc : isRepetition c = true)
      (hread : readRepetition state.verbose c rest = some ((min, max), greedy, left))
      (hitems : repeatLast min max greedy items = some items')
      (hleft : readBody fuel state branches items' left = some result) :
      BodyStep fuel state branches items (c :: rest) result
  | item {c : Char} {rest left : List Char} {e : Expr} {result : Expr × ReaderState × List Char}
      (hc : StartsItem c) (hread : readItem state.verbose c rest = some (e, left))
      (hleft : readBody fuel state branches (e :: items) left = some result) :
      BodyStep fuel state branches items (c :: rest) result

section Steps

variable {fuel : Nat} {state : ReaderState} {branches items : List Expr}
  {result : Expr × ReaderState × List Char}

theorem bodyStep_of_readBody
    (h : readBody (fuel + 1) state branches items s = some result) :
    BodyStep fuel state branches items (skip state.verbose s) result := by
  rw [readBody] at h
  cases hs : skip state.verbose s with
  | nil =>
    rw [hs] at h
    obtain rfl := Option.some.inj h
    exact .stop
  | cons c rest =>
    simp only [hs] at h
    by_cases hclose : (c == ')') = true
    · rw [if_pos hclose] at h
      obtain rfl := beq_iff_eq.1 hclose
      obtain rfl := Option.some.inj h
      exact .close rest
    rw [if_neg hclose] at h
    by_cases hbar : (c == '|') = true
    · rw [if_pos hbar] at h
      obtain rfl := beq_iff_eq.1 hbar
      exact .bar h
    rw [if_neg hbar] at h
    by_cases hopen : (c == '(') = true
    · rw [if_pos hopen] at h
      obtain rfl := beq_iff_eq.1 hopen
      split at h
      · cases h
      · rename_i changes inner left hopening
        exact .flags hopening h
      · rename_i g inner inside hopening
        split at h
        · rename_i e after left hinside
          exact .group hopening hinside h
        · cases h
    rw [if_neg hopen] at h
    by_cases hrepetition : isRepetition c = true
    · rw [if_pos hrepetition] at h
      split at h
      · rename_i min max greedy left hread
        split at h
        · rename_i items' hitems
          exact .repetition hrepetition hread hitems h
        · cases h
      · cases h
    rw [if_neg hrepetition] at h
    have hc : StartsItem c := {
      ne_close := fun heq => hclose (beq_iff_eq.2 heq)
      ne_bar := fun heq => hbar (beq_iff_eq.2 heq)
      ne_open := fun heq => hopen (beq_iff_eq.2 heq)
      not_repetition := Bool.eq_false_iff.2 hrepetition }
    split at h
    · rename_i e left hread
      exact .item hc hread h
    · cases h

theorem ne_of_isRepetition {c d : Char} (hc : isRepetition c = true)
    (hd : isRepetition d = false) : c ≠ d := by
  rintro rfl
  rw [hc] at hd
  cases hd

theorem BodyStep.readBody
    (h : BodyStep fuel state branches items (skip state.verbose s) result) :
    readBody (fuel + 1) state branches items s = some result := by
  rw [Pattern.readBody]
  generalize skip state.verbose s = left at h
  cases h with
  | stop => rfl
  | close => rfl
  | bar hrest => exact hrest
  | flags hopening hleft =>
    simp only [Char.reduceBEq, hopening]
    exact hleft
  | group hopening hinside hleft =>
    simp only [Char.reduceBEq, hopening, hinside]
    exact hleft
  | repetition hc hread hitems hleft =>
    have hclose := ne_of_isRepetition hc (d := ')') rfl
    have hbar := ne_of_isRepetition hc (d := '|') rfl
    have hopen := ne_of_isRepetition hc (d := '(') rfl
    simp only [beq_iff_eq, hclose, hbar, hopen, hc, if_false, if_true, hread, hitems]
    exact hleft
  | item hc hread hleft =>
    simp only [beq_iff_eq, hc.ne_close, hc.ne_bar, hc.ne_open, hc.not_repetition, if_false,
      Bool.false_eq_true, hread]
    exact hleft

/-- One more unit of fuel is one step. -/
theorem readBody_succ_iff : readBody (fuel + 1) state branches items s = some result ↔
    BodyStep fuel state branches items (skip state.verbose s) result :=
  ⟨bodyStep_of_readBody, BodyStep.readBody⟩

end Steps

/-! ### Verbose mode -/

def FlagChanges.turnsVerbose (changes : FlagChanges) : Bool := changes.value? .verbose == some true

/-- Whether a pattern turns verbose mode on anywhere. -/
def Expr.turnsVerbose : Expr → Bool
  | .setFlags changes => changes.turnsVerbose
  | .capture _ e => e.turnsVerbose
  | .scope changes e => changes.turnsVerbose || e.turnsVerbose
  | .repeated e _ _ _ => e.turnsVerbose
  | .seq a b => a.turnsVerbose || b.turnsVerbose
  | .alt a b => a.turnsVerbose || b.turnsVerbose
  | _ => false

theorem turnsVerbose_ofItems (items : List Expr) :
    (Expr.ofItems items).turnsVerbose = items.any Expr.turnsVerbose := by
  fun_induction Expr.ofItems items with
  | case1 => rfl
  | case2 item => simp
  | case3 item rest _ ih => simp [Expr.turnsVerbose, ih]

theorem turnsVerbose_ofBranches (branches : List Expr) :
    (Expr.ofBranches branches).turnsVerbose = branches.any Expr.turnsVerbose := by
  fun_induction Expr.ofBranches branches with
  | case1 => rfl
  | case2 branch => simp
  | case3 branch rest _ ih => simp [Expr.turnsVerbose, ih]

theorem turnsVerbose_closeBranches (branches items : List Expr) :
    (closeBranches branches items).turnsVerbose =
      (branches.any Expr.turnsVerbose || items.any Expr.turnsVerbose) := by
  simp [closeBranches, turnsVerbose_ofBranches, turnsVerbose_ofItems, Bool.or_comm]

theorem turnsVerbose_repeatLast {min : Nat} {max : Option Nat} {greedy : Bool}
    {items items' : List Expr} (h : repeatLast min max greedy items = some items') :
    items'.any Expr.turnsVerbose = items.any Expr.turnsVerbose := by
  cases items with
  | nil => cases h
  | cons item rest =>
    simp only [repeatLast] at h
    split at h
    · obtain rfl := Option.some.inj h
      simp [Expr.turnsVerbose]
    · cases h

/-- What has been read stays part of the whole. -/
theorem turnsVerbose_of_readBody {fuel : Nat} {state after : ReaderState}
    {branches items : List Expr} {e : Expr}
    (h : readBody fuel state branches items s = some (e, after, rest))
    (hread : (branches.any Expr.turnsVerbose || items.any Expr.turnsVerbose) = true) :
    e.turnsVerbose = true := by
  induction fuel generalizing s state after branches items e rest with
  | zero => cases h
  | succ fuel ih =>
    have hmore (item : Expr) :
        (branches.any Expr.turnsVerbose || (item :: items).any Expr.turnsVerbose) = true := by
      simp only [List.any_cons, Bool.or_eq_true] at hread ⊢
      exact hread.imp_right Or.inr
    have hstep := readBody_succ_iff.1 h
    generalize skip state.verbose s = left at hstep
    cases hstep with
    | stop => rwa [turnsVerbose_closeBranches]
    | close => rwa [turnsVerbose_closeBranches]
    | bar hrest =>
      apply ih hrest
      simpa [turnsVerbose_ofItems, Bool.or_comm] using hread
    | flags hopening hleft => exact ih hleft (hmore _)
    | group hopening hinside hleft => exact ih hleft (hmore _)
    | repetition hc hrepeated hitems hleft =>
      apply ih hleft
      rwa [turnsVerbose_repeatLast hitems]
    | item hc hitem hleft => exact ih hleft (hmore _)

def Group.turnsVerbose : Group → Bool
  | .capture _ => false
  | .scope changes => changes.turnsVerbose

theorem turnsVerbose_around (g : Group) (e : Expr) :
    (g.around e).turnsVerbose = (g.turnsVerbose || e.turnsVerbose) := by
  cases g <;> rfl

def Opening.turnsVerbose : Opening → Bool
  | .group g => g.turnsVerbose
  | .setFlags changes => changes.turnsVerbose

theorem verbose_apply {state : ReaderState} {changes : FlagChanges}
    (h : (state.apply changes).verbose = true) :
    state.verbose = true ∨ changes.turnsVerbose = true := by
  unfold ReaderState.apply at h
  unfold FlagChanges.turnsVerbose
  cases hvalue : changes.value? .verbose with
  | none =>
    rw [hvalue] at h
    exact Or.inl h
  | some value =>
    rw [hvalue] at h
    have hvalue' : value = true := h
    exact Or.inr (by simp [hvalue'])

theorem verbose_openNamed {state inner : ReaderState} {opening : Opening}
    (h : openNamed state s = some (opening, inner, rest)) : inner.verbose = state.verbose := by
  unfold openNamed at h
  split at h
  · split at h
    · cases h
    · cases h
      rfl
  · cases h

theorem verbose_openFlagged {state inner : ReaderState} {opening : Opening}
    (h : openFlagged state s = some (opening, inner, rest)) (hinner : inner.verbose = true) :
    state.verbose = true ∨ opening.turnsVerbose = true := by
  unfold openFlagged at h
  split at h
  · split at h
    · cases h
    · cases h
      exact verbose_apply hinner
  · cases h
    exact verbose_apply hinner
  · cases h

/-- Only what opens a group or changes flags can turn verbose mode on. -/
theorem verbose_readOpening {state inner : ReaderState} {opening : Opening}
    (h : readOpening state s = some (opening, inner, rest)) (hinner : inner.verbose = true) :
    state.verbose = true ∨ opening.turnsVerbose = true := by
  unfold readOpening at h
  split at h
  · unfold readExtension at h
    split at h
    · exact Or.inl (verbose_openNamed h ▸ hinner)
    · cases h
    · cases h
    · exact Or.inl (verbose_openNamed h ▸ hinner)
    · exact verbose_openFlagged h hinner
  · cases h
    exact Or.inl hinner

/-! ### Bodies -/

/-- Readings with `fuel` are kept with `fuel'` and more text behind.  The rest of the text is lost
to a comment only where verbose mode is on somewhere. -/
def KeepsBodies (comments : Bool) (whole t : List Char) (fuel fuel' : Nat) : Prop :=
  ∀ {state after : ReaderState} {branches items : List Expr} {rest rest' left : List Char}
    {e : Expr}, (state.verbose = true → comments = true) → Leaves comments whole t rest rest' →
    readBody fuel state branches items rest = some (e, after, left) →
    (e.turnsVerbose = true → comments = true) →
    ∃ left', readBody fuel' state branches items rest' = some (e, after, left') ∧
      Leaves comments whole t left left'

section Keeping

variable {fuel fuel' : Nat} {state after : ReaderState} {branches items : List Expr} {e : Expr}
  {left : List Char} (h : Closes t) (ih : KeepsBodies comments whole t fuel fuel')
  (hstate : state.verbose = true → comments = true)

include h ih hstate

theorem keeps_flags {inner : ReaderState} {changes : FlagChanges} {body : List Char}
    (hrest : Leaves state.verbose whole t rest rest')
    (hopening : readOpening state rest = some (.setFlags changes, inner, body))
    (hleft : readBody fuel inner branches (.setFlags changes :: items) body =
      some (e, after, left))
    (he : e.turnsVerbose = true → comments = true) :
    ∃ left', BodyStep fuel' state branches items ('(' :: rest') (e, after, left') ∧
      Leaves comments whole t left left' := by
  obtain ⟨body', hopening', hbody⟩ := readOpening_leaves h state hrest _ _ _ hopening
  have hchanges : changes.turnsVerbose = true → comments = true := fun hturns =>
    he (turnsVerbose_of_readBody hleft (by simp [Expr.turnsVerbose, hturns]))
  have hinner : inner.verbose = true → comments = true := fun hverbose =>
    (verbose_readOpening hopening hverbose).elim hstate hchanges
  obtain ⟨left', hleft', hleaves⟩ := ih hinner (hbody.mono hstate) hleft he
  exact ⟨left', .flags hopening' hleft', hleaves⟩

/-- The body of a group ends before its parenthesis, so that no comment takes the parenthesis. -/
theorem keeps_group {inner after' : ReaderState} {g : Group} {e' : Expr} {inside final : List Char}
    (hrest : Leaves state.verbose whole t rest rest')
    (hopening : readOpening state rest = some (.group g, inner, inside))
    (hinside : readBody fuel inner [] [] inside = some (e', after', ')' :: final))
    (hleft : readBody fuel ⟨state.verbose, after'.groups, after'.names⟩ branches
      (g.around e' :: items) final = some (e, after, left))
    (he : e.turnsVerbose = true → comments = true) :
    ∃ left', BodyStep fuel' state branches items ('(' :: rest') (e, after, left') ∧
      Leaves comments whole t left left' := by
  obtain ⟨inside', hopening', hbody⟩ := readOpening_leaves h state hrest _ _ _ hopening
  have haround : (g.around e').turnsVerbose = true → comments = true := fun hturns =>
    he (turnsVerbose_of_readBody hleft (by simp [hturns]))
  rw [turnsVerbose_around, Bool.or_eq_true] at haround
  have hinner : inner.verbose = true → comments = true := fun hverbose =>
    (verbose_readOpening hopening hverbose).elim hstate fun hturns => haround (Or.inl hturns)
  obtain ⟨final', hinside', hfinal⟩ :=
    ih hinner (hbody.mono hstate) hinside fun hturns => haround (Or.inr hturns)
  obtain rfl := hfinal.cons
  have houter : (⟨state.verbose, after'.groups, after'.names⟩ : ReaderState).verbose = true →
      comments = true := hstate
  obtain ⟨left', hleft', hleaves⟩ := ih houter hfinal.tail hleft he
  exact ⟨left', .group hopening' hinside' hleft', hleaves⟩

/-- One step of a reading is kept if the readings behind it are. -/
theorem BodyStep.leaves {s' : List Char} (hs : Leaves comments whole t s s')
    (hstep : BodyStep fuel state branches items s (e, after, left))
    (he : e.turnsVerbose = true → comments = true) :
    ∃ left', BodyStep fuel' state branches items s' (e, after, left') ∧
      Leaves comments whole t left left' := by
  cases hstep with
  | stop =>
    refine ⟨s', ?_, hs⟩
    obtain ⟨more, rfl⟩ := h.head
    rcases hs.parts with rfl | ⟨-, -, -, rfl⟩
    · exact .close more
    · exact .stop
  | close rest =>
    rw [hs.cons]
    exact ⟨_, .close (rest ++ t), hs.keep⟩
  | bar hrest =>
    rw [hs.cons]
    obtain ⟨left', hrest', hleaves⟩ := ih hstate hs.tail hrest he
    exact ⟨left', .bar hrest', hleaves⟩
  | flags hopening hleft =>
    rw [hs.cons]
    exact keeps_flags h ih hstate hs.tail hopening hleft he
  | group hopening hinside hleft =>
    rw [hs.cons]
    exact keeps_group h ih hstate hs.tail hopening hinside hleft he
  | repetition hc hread hitems hleft =>
    rw [hs.cons]
    obtain ⟨final, hread', hfinal⟩ :=
      readRepetition_leaves h state.verbose _ hs.tail _ _ _ hread
    obtain ⟨left', hleft', hleaves⟩ := ih hstate (hfinal.mono hstate) hleft he
    exact ⟨left', .repetition hc hread' hitems hleft', hleaves⟩
  | item hc hread hleft =>
    rw [hs.cons]
    obtain ⟨final, hread', hfinal⟩ := readItem_leaves h state.verbose _ hs.tail _ _ hread
    obtain ⟨left', hleft', hleaves⟩ := ih hstate (hfinal.mono hstate) hleft he
    exact ⟨left', .item hc hread' hleft', hleaves⟩

end Keeping

/-- A body that reads to its end is read the same with a closing parenthesis and more behind it. -/
theorem readBody_leaves (h : Closes t) {fuel fuel' : Nat} (hfuel : fuel ≤ fuel') :
    KeepsBodies comments whole t fuel fuel' := by
  induction fuel generalizing fuel' with
  | zero =>
    intro state after branches items rest rest' left e hstate hrest hs he
    cases hs
  | succ fuel ih =>
    intro state after branches items rest rest' left e hstate hrest hs he
    obtain ⟨fuel', rfl⟩ := Nat.exists_eq_succ_of_ne_zero (by omega : fuel' ≠ 0)
    have hskip := skip_leaves state.verbose hstate h hrest
    obtain ⟨left', hstep, hleaves⟩ := (readBody_succ_iff.1 hs).leaves h
      (ih (Nat.le_of_succ_le_succ hfuel)) hstate hskip he
    exact ⟨left', hstep.readBody, hleaves⟩

/-- A reading that ends does so with more fuel as well. -/
theorem readBody_mono {fuel fuel' : Nat} (hfuel : fuel ≤ fuel') {state : ReaderState}
    {branches items : List Expr} {result : Expr × ReaderState × List Char}
    (h : readBody fuel state branches items s = some result) :
    readBody fuel' state branches items s = some result := by
  induction fuel generalizing s fuel' state branches items result with
  | zero => cases h
  | succ fuel ih =>
    obtain ⟨fuel', rfl⟩ := Nat.exists_eq_succ_of_ne_zero (by omega : fuel' ≠ 0)
    replace hfuel := Nat.le_of_succ_le_succ hfuel
    apply BodyStep.readBody
    have hstep := readBody_succ_iff.1 h
    generalize skip state.verbose s = left at hstep ⊢
    cases hstep with
    | stop => exact .stop
    | close rest => exact .close rest
    | bar hrest => exact .bar (ih hfuel hrest)
    | flags hopening hleft => exact .flags hopening (ih hfuel hleft)
    | group hopening hinside hleft =>
      exact .group hopening (ih hfuel hinside) (ih hfuel hleft)
    | repetition hc hread hitems hleft => exact .repetition hc hread hitems (ih hfuel hleft)
    | item hc hread hleft => exact .item hc hread (ih hfuel hleft)

/-! ### The numbers of groups -/

/-- No group of a pattern has the number of the whole match. -/
def Expr.Numbered : Expr → Prop
  | .capture index e => index ≠ 0 ∧ e.Numbered
  | .scope _ e => e.Numbered
  | .repeated e _ _ _ => e.Numbered
  | .seq a b => a.Numbered ∧ b.Numbered
  | .alt a b => a.Numbered ∧ b.Numbered
  | _ => True

theorem numbered_ofItems {items : List Expr} (h : ∀ e ∈ items, e.Numbered) :
    (Expr.ofItems items).Numbered := by
  fun_induction Expr.ofItems items with
  | case1 => trivial
  | case2 item => exact h item (List.mem_singleton_self item)
  | case3 item rest _ ih =>
    exact ⟨h item List.mem_cons_self, ih fun e he => h e (List.mem_cons_of_mem _ he)⟩

theorem numbered_ofBranches {branches : List Expr} (h : ∀ e ∈ branches, e.Numbered) :
    (Expr.ofBranches branches).Numbered := by
  fun_induction Expr.ofBranches branches with
  | case1 => trivial
  | case2 branch => exact h branch (List.mem_singleton_self branch)
  | case3 branch rest _ ih =>
    exact ⟨h branch List.mem_cons_self, ih fun e he => h e (List.mem_cons_of_mem _ he)⟩

theorem numbered_close {branches items : List Expr} (hbranches : ∀ e ∈ branches, e.Numbered)
    (hitems : ∀ e ∈ items, e.Numbered) : (closeBranches branches items).Numbered := by
  refine numbered_ofBranches fun e he => ?_
  rcases List.mem_cons.1 (List.mem_reverse.1 he) with rfl | he
  · exact numbered_ofItems fun e he => hitems e (List.mem_reverse.1 he)
  · exact hbranches e he

theorem numbered_repeatLast {min : Nat} {max : Option Nat} {greedy : Bool}
    {items items' : List Expr}
    (h : repeatLast min max greedy items = some items') (hitems : ∀ e ∈ items, e.Numbered) :
    ∀ e ∈ items', e.Numbered := by
  cases items with
  | nil => cases h
  | cons item rest =>
    simp only [repeatLast] at h
    split at h
    · obtain rfl := Option.some.inj h
      intro e he
      rcases List.mem_cons.1 he with rfl | he
      · exact hitems item List.mem_cons_self
      · exact hitems e (List.mem_cons_of_mem _ he)
    · cases h

theorem numbered_letterEscape {c : Char} {e : Expr} (h : letterEscape? c = some e) :
    e.Numbered := by
  unfold letterEscape? at h
  split at h <;> cases h <;> trivial

theorem numbered_readHex {verbose : Bool} {width : Nat} {e : Expr}
    (h : readHex verbose width s = some (e, rest)) : e.Numbered := by
  unfold readHex at h
  split at h <;> split at h
  · split at h
    · cases h
    · obtain ⟨c, _, heq⟩ := Option.map_eq_some_iff.1 h
      obtain ⟨rfl, _⟩ := Prod.mk.inj heq
      trivial
  · cases h
  · obtain ⟨c, _, heq⟩ := Option.map_eq_some_iff.1 h
    obtain ⟨rfl, _⟩ := Prod.mk.inj heq
    trivial
  · cases h

theorem numbered_readEscape {verbose : Bool} {e : Expr}
    (h : readEscape verbose s = some (e, rest)) :
    e.Numbered := by
  cases s with
  | nil => cases h
  | cons c s =>
    rw [readEscape] at h
    split at h
    · cases h
    split at h
    · exact numbered_readHex h
    split at h
    · exact numbered_readHex h
    split at h
    · exact numbered_readHex h
    split at h
    · obtain ⟨⟨name, left⟩, _, heq⟩ := Option.map_eq_some_iff.1 h
      obtain ⟨rfl, _⟩ := Prod.mk.inj heq
      trivial
    split at h
    · obtain ⟨rfl, _⟩ := Prod.mk.inj (Option.some.inj h)
      trivial
    split at h
    · obtain ⟨⟨a, left⟩, _, heq⟩ := Option.map_eq_some_iff.1 h
      obtain ⟨rfl, _⟩ := Prod.mk.inj heq
      trivial
    · obtain ⟨e', he', heq⟩ := Option.map_eq_some_iff.1 h
      obtain ⟨rfl, _⟩ := Prod.mk.inj heq
      exact numbered_letterEscape he'

theorem numbered_readItem {verbose : Bool} {c : Char} {e : Expr}
    (h : readItem verbose c s = some (e, rest)) : e.Numbered := by
  unfold readItem at h
  split at h
  · obtain ⟨⟨inner, left⟩, _, heq⟩ := Option.map_eq_some_iff.1 h
    obtain ⟨rfl, _⟩ := Prod.mk.inj heq
    trivial
  · exact numbered_readEscape h
  all_goals
    obtain ⟨rfl, _⟩ := Prod.mk.inj (Option.some.inj h)
    trivial

theorem numbered_openNamed {state inner : ReaderState} {g : Group} {e : Expr}
    (h : openNamed state s = some (.group g, inner, rest)) (he : e.Numbered) :
    (g.around e).Numbered := by
  unfold openNamed at h
  split at h
  · split at h
    · cases h
    · cases h
      exact ⟨Nat.succ_ne_zero _, he⟩
  · cases h

theorem numbered_openFlagged {state inner : ReaderState} {g : Group} {e : Expr}
    (h : openFlagged state s = some (.group g, inner, rest)) (he : e.Numbered) :
    (g.around e).Numbered := by
  unfold openFlagged at h
  split at h
  · split at h <;> cases h
  · cases h
    exact he
  · cases h

theorem numbered_readOpening {state inner : ReaderState} {g : Group} {e : Expr}
    (h : readOpening state s = some (.group g, inner, rest)) (he : e.Numbered) :
    (g.around e).Numbered := by
  unfold readOpening at h
  split at h
  · rename_i left _
    unfold readExtension at h
    split at h
    · exact numbered_openNamed h he
    · cases h
    · cases h
    · exact numbered_openNamed h he
    · exact numbered_openFlagged h he
  · cases h
    exact ⟨Nat.succ_ne_zero _, he⟩

theorem numbered_readBody {fuel : Nat} {state after : ReaderState} {branches items : List Expr}
    {e : Expr} (h : readBody fuel state branches items s = some (e, after, rest))
    (hbranches : ∀ e ∈ branches, e.Numbered) (hitems : ∀ e ∈ items, e.Numbered) :
    e.Numbered := by
  induction fuel generalizing s state after branches items e rest with
  | zero => cases h
  | succ fuel ih =>
    have hmore {item : Expr} (hitem : item.Numbered) : ∀ e ∈ item :: items, e.Numbered :=
      List.forall_mem_cons.2 ⟨hitem, hitems⟩
    have hstep := readBody_succ_iff.1 h
    generalize skip state.verbose s = left at hstep
    cases hstep with
    | stop => exact numbered_close hbranches hitems
    | close => exact numbered_close hbranches hitems
    | bar hrest =>
      have hbranch : (Expr.ofItems items.reverse).Numbered :=
        numbered_ofItems fun e he => hitems e (List.mem_reverse.1 he)
      exact ih hrest (List.forall_mem_cons.2 ⟨hbranch, hbranches⟩) nofun
    | flags hopening hleft => exact ih hleft hbranches (hmore trivial)
    | group hopening hinside hleft =>
      exact ih hleft hbranches (hmore (numbered_readOpening hopening (ih hinside nofun nofun)))
    | repetition hc hread hrepeat hleft =>
      exact ih hleft hbranches (numbered_repeatLast hrepeat hitems)
    | item hc hread hleft => exact ih hleft hbranches (hmore (numbered_readItem hread))

end FormRules.Pattern
