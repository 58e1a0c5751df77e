import FormRules.Pattern.Delimited
import FormRules.Proofs.Pattern.Body
import FormRules.Proofs.Pattern.Search

/-!
# Matches of the whole subject

A delimited pattern stands in a group between the start and the end of the text.  When its body is
a pattern of its own, the group closes behind the body, and whatever matches is the whole subject.
A body that closes the group itself can leave the end of the text to one of two alternatives only.

`regex` documents that the pattern has to match the whole subject (specification, section 6);
`captures_whole` says of which bodies this holds.
-/

namespace FormRules.Pattern

open Regex

variable {s : List Char} {i j : Nat}

/-! ### Expressions that are bound to a place -/

/-- Whether every match visibly has to pass a place of the given kind. -/
def Regex.isBoundTo (l : Look) : Regex → Bool
  | empty => false
  | chars _ => false
  | look k => k == l
  | group _ r => r.isBoundTo l
  | scope r => r.isBoundTo l
  | seq a b => a.isBoundTo l || b.isBoundTo l
  | alt a b => a.isBoundTo l && b.isBoundTo l
  | repeated r min _ _ => min != 0 && r.isBoundTo l

theorem holds_of_isBoundTo {l : Look} {r : Regex} (hbound : r.isBoundTo l = true)
    (hspans : r.Spans s i j) :
    ∃ k, i ≤ k ∧ k ≤ j ∧ k ≤ s.length ∧ l.holds (charBefore s k) s[k]? = true := by
  induction r generalizing i j with
  | empty => cases hbound
  | chars set => cases hbound
  | look k =>
    obtain rfl : k = l := by simpa [isBoundTo] using hbound
    obtain ⟨rfl, hle, hholds⟩ := spans_look.1 hspans
    exact ⟨j, Nat.le_refl j, Nat.le_refl j, hle, hholds⟩
  | group index r ih => exact ih hbound (spans_group.1 hspans)
  | scope r ih => exact ih hbound (spans_scope.1 hspans)
  | seq a b iha ihb =>
    obtain ⟨m, ha, hb⟩ := spans_seq.1 hspans
    have hle := ha.le
    have hle' := hb.le
    rcases Bool.or_eq_true_iff.1 hbound with hbound | hbound
    · obtain ⟨k, hik, hkm, hk⟩ := iha hbound ha
      exact ⟨k, hik, by omega, hk⟩
    · obtain ⟨k, hmk, hkj, hk⟩ := ihb hbound hb
      exact ⟨k, by omega, hkj, hk⟩
  | alt a b iha ihb =>
    obtain ⟨hbounda, hboundb⟩ := Bool.and_eq_true_iff.1 hbound
    rcases spans_alt.1 hspans with ha | hb
    · exact iha hbounda ha
    · exact ihb hboundb hb
  | repeated r min max greedy ih =>
    obtain ⟨hmin, hbound⟩ := Bool.and_eq_true_iff.1 hbound
    rcases spans_repeated.1 hspans with ⟨hzero, _⟩ | ⟨_, m, hr, hrest⟩
    · exact absurd hzero (by simpa using hmin)
    · have hle := hrest.le
      obtain ⟨k, hik, hkm, hk⟩ := ih hbound hr
      exact ⟨k, hik, by omega, hk⟩

/-- Whether every match visibly is the whole subject. -/
def Regex.isAnchored (r : Regex) : Bool := r.isBoundTo .textStart && r.isBoundTo .textEnd

theorem whole_of_isAnchored {r : Regex} (hanchored : r.isAnchored = true)
    (hspans : r.Spans s i j) : i = 0 ∧ j = s.length := by
  obtain ⟨hstart, hend⟩ := Bool.and_eq_true_iff.1 hanchored
  have hle := hspans.le
  refine ⟨?_, ?_⟩
  · obtain ⟨k, hik, _, hk, hholds⟩ := holds_of_isBoundTo hstart hspans
    by_cases hzero : k = 0
    · omega
    · have hlt : k - 1 < s.length := by omega
      rw [charBefore, if_neg hzero, List.getElem?_eq_getElem hlt] at hholds
      cases hholds
  · obtain ⟨k, _, hkj, hk, hholds⟩ := holds_of_isBoundTo hend hspans
    by_cases hlt : k < s.length
    · rw [List.getElem?_eq_getElem hlt] at hholds
      cases hholds
    · omega

/-! ### The numbers of groups -/

theorem numbered_rounds {r : Regex} (h : r.Numbered) (min : Nat) (max : Option Nat)
    (greedy : Bool) : (r.rounds min max greedy).Numbered := by
  unfold rounds
  extract_lets least most
  split
  · trivial
  · split
    · exact h
    · exact h

theorem numbered_meaning {e : Expr} (he : e.Numbered) {flags flags' : Flags} {r : Regex}
    (h : e.meaning flags = some (r, flags')) : r.Numbered := by
  induction e generalizing flags flags' r with
  | empty => cases h; trivial
  | setFlags changes => cases h; trivial
  | literal c byte =>
    simp only [Expr.meaning] at h
    split at h <;> cases h
    trivial
  | dot =>
    simp only [Expr.meaning] at h
    split at h <;> cases h
    trivial
  | assertion a => cases h; trivial
  | shorthand kind negated =>
    obtain ⟨set, _, heq⟩ := Option.map_eq_some_iff.1 h
    cases heq
    trivial
  | property name negated =>
    simp only [Expr.meaning] at h
    split at h
    · split at h
      · obtain ⟨set, _, heq⟩ := Option.map_eq_some_iff.1 h
        cases heq
        trivial
      · cases h
    · cases h
  | set negated inner =>
    simp only [Expr.meaning] at h
    split at h
    · obtain ⟨set, _, heq⟩ := Option.map_eq_some_iff.1 h
      cases heq
      trivial
    · cases h
  | capture index e ih =>
    obtain ⟨⟨inner, _⟩, hinner, heq⟩ := Option.map_eq_some_iff.1 h
    cases heq
    exact ⟨he.1, ih he.2 hinner⟩
  | scope changes e ih =>
    obtain ⟨⟨inner, _⟩, hinner, heq⟩ := Option.map_eq_some_iff.1 h
    cases heq
    have hr : inner.Numbered := ih he hinner
    exact hr
  | repeated e min max greedy ih =>
    simp only [Expr.meaning] at h
    split at h
    · rename_i inner _ hinner
      cases h
      exact numbered_rounds (ih he hinner) _ _ _
    · cases h
  | seq a b iha ihb =>
    simp only [Expr.meaning] at h
    split at h
    · rename_i ra _ ha
      obtain ⟨⟨rb, _⟩, hb, heq⟩ := Option.map_eq_some_iff.1 h
      cases heq
      exact ⟨iha he.1 ha, ihb he.2 hb⟩
    · cases h
  | alt a b iha ihb =>
    simp only [Expr.meaning] at h
    split at h
    · rename_i ra _ ha
      obtain ⟨⟨rb, _⟩, hb, heq⟩ := Option.map_eq_some_iff.1 h
      cases heq
      exact ⟨iha he.1 ha, ihb he.2 hb⟩
    · cases h

/-! ### Bodies that are patterns of their own -/

theorem closes_anchor : Closes ")\\z".toList where
  head := ⟨_, rfl⟩
  line := by decide
  colon := by decide

theorem readBody_textStart (fuel : Nat) (state : ReaderState) (items : List Expr)
    (rest : List Char) :
    readBody (fuel + 1) state [] items ('\\' :: 'A' :: rest) =
      readBody fuel state [] (.assertion .textStart :: items) rest := by
  obtain ⟨verbose, groups, names⟩ := state
  cases verbose <;> rfl

theorem readBody_scope (fuel : Nat) (state : ReaderState) (items : List Expr) (rest : List Char) :
    readBody (fuel + 1) state [] items ('(' :: '?' :: ':' :: rest) =
      match readBody fuel state [] [] rest with
      | some (e, after, ')' :: rest) =>
        readBody fuel ⟨state.verbose, after.groups, after.names⟩ [] (.scope [] e :: items) rest
      | _ => none := by
  obtain ⟨verbose, groups, names⟩ := state
  cases verbose <;> rfl

theorem readBody_textEnd (fuel : Nat) (state : ReaderState) (items : List Expr) :
    readBody (fuel + 2) state [] items "\\z".toList =
      some (closeBranches [] (.assertion .textEnd :: items), state, []) := by
  obtain ⟨verbose, groups, names⟩ := state
  cases verbose <;> rfl

/-- A pattern as written between the start and the end of the text. -/
def Expr.anchored (e : Expr) : Expr :=
  .seq (.assertion .textStart) (.seq (.scope [] e) (.assertion .textEnd))

/-- An expression between the start and the end of the text. -/
def Regex.anchored (r : Regex) : Regex :=
  .seq (.look .textStart) (.seq (.scope r) (.look .textEnd))

theorem meaning_anchored (e : Expr) (flags : Flags) :
    e.anchored.meaning flags = (e.meaning flags).map fun (r, _) => (r.anchored, flags) := by
  simp only [Expr.anchored, Expr.meaning, Assertion.look, Flags.apply_nil]
  cases e.meaning flags with
  | none => rfl
  | some m => rfl

theorem readBody_anchored (verbose : Bool) (body : List Char) :
    readBody ((Pattern.anchored body).length + 1) ⟨verbose, 0, []⟩ [] [] (Pattern.anchored body) =
      match readBody (body.length + 7) ⟨verbose, 0, []⟩ [] [] (body ++ ")\\z".toList) with
      | some (e, after, ')' :: rest) =>
        readBody (body.length + 7) ⟨verbose, after.groups, after.names⟩ []
          [.scope [] e, .assertion .textStart] rest
      | _ => none := by
  have hshape : Pattern.anchored body =
      '\\' :: 'A' :: '(' :: '?' :: ':' :: (body ++ ")\\z".toList) := rfl
  have hlength : (body ++ ")\\z".toList).length = body.length + 3 := List.length_append
  have hfuel : (Pattern.anchored body).length + 1 = body.length + 7 + 2 := by
    rw [hshape]
    simp only [List.length_cons, hlength]
  rw [hfuel, hshape, readBody_textStart, readBody_scope]

/-- A body that is a pattern of its own is read between its anchors as that pattern, unless its last
line ends in a comment, which takes the end of the group along so that it is not noticed. -/
theorem read_closed {verbose : Bool} {body : List Char} {e : Expr}
    (hbody : Expr.read? verbose body = some e) :
    (Expr.read? verbose (body ++ ")\\z".toList) = none ∧
        Expr.read? verbose (Pattern.anchored body) =
          if e.anchored.depth .alone ≤ maxDepth then some e.anchored else none) ∨
      (verbose || e.turnsVerbose) = true ∧ HasLastHash body ∧
        Expr.read? verbose (body ++ ")\\z".toList) = some e ∧
        Expr.read? verbose (Pattern.anchored body) = none := by
  unfold Expr.read? at hbody
  split at hbody
  · rename_i inner state hread
    split at hbody
    · rename_i hdepth
      obtain rfl := Option.some.inj hbody
      have hlength : (body ++ ")\\z".toList).length = body.length + 3 := List.length_append
      have hverbose : (⟨verbose, 0, []⟩ : ReaderState).verbose = true →
          (verbose || inner.turnsVerbose) = true := fun h => Bool.or_eq_true_iff.2 (Or.inl h)
      have hturns : inner.turnsVerbose = true → (verbose || inner.turnsVerbose) = true :=
        fun h => Bool.or_eq_true_iff.2 (Or.inr h)
      obtain ⟨left, hclosed, hleaves⟩ :=
        readBody_leaves closes_anchor (Nat.le_add_right (body.length + 1) 3) hverbose
          (.refl _ (List.suffix_refl body)) hread hturns
      have hanchored := readBody_anchored verbose body
      rw [readBody_mono (Nat.le_add_right (body.length + 4) 3) hclosed] at hanchored
      rcases hleaves.parts with rfl | ⟨hcomments, hhash, -, rfl⟩
      · -- the parenthesis is left, as the end of the group or as one that opens nothing
        have hend := readBody_textEnd (body.length + 5) ⟨verbose, state.groups, state.names⟩
          [.scope [] inner, .assertion .textStart]
        have hclose : [] ++ ")\\z".toList = ')' :: "\\z".toList := rfl
        simp only [hclose, hend] at hanchored
        refine Or.inl ⟨?_, ?_⟩
        · rw [Expr.read?, hlength, hclosed]
          rfl
        · rw [Expr.read?, hanchored]
          rfl
      · -- nothing is left, and the group stays open
        refine Or.inr ⟨hcomments, hhash, ?_, ?_⟩
        · rw [Expr.read?, hlength, hclosed]
          exact if_pos hdepth
        · rw [Expr.read?, hanchored]
    · cases hbody
  · cases hbody

theorem read_anchored {verbose : Bool} {body : List Char} {e : Expr}
    (hbody : Expr.read? verbose body = some e) :
    Expr.read? verbose (Pattern.anchored body) =
        (if e.anchored.depth .alone ≤ maxDepth then some e.anchored else none) ∨
      (verbose || e.turnsVerbose) = true ∧
        Expr.read? verbose (Pattern.anchored body) = none := by
  rcases read_closed hbody with ⟨-, hanchored⟩ | ⟨hcomments, -, -, hanchored⟩
  · exact Or.inl hanchored
  · exact Or.inr ⟨hcomments, hanchored⟩

variable {p : List Char} {pattern : Pattern}

/-! ### Whole matches -/

/-- Whether the body of a delimited text is a pattern of its own. -/
def standsAlone (p : List Char) : Bool :=
  match Delimited.split? p with
  | .error _ => false
  | .ok (body, letters) => match Modifiers.read? {} letters with
    | .error _ => false
    | .ok modifiers => (Expr.read? modifiers.verbose body).isSome

/-- What a pattern that compiles was made from. -/
theorem exists_of_compile (h : compile p = .ok pattern) :
    ∃ body letters modifiers e flags, Delimited.split? p = .ok (body, letters) ∧
      Modifiers.read? {} letters = .ok modifiers ∧
      Expr.read? modifiers.verbose (anchored body) = some e ∧
      e.meaning modifiers.flags = some (pattern.regex, flags) := by
  unfold compile at h
  split at h
  · cases h
  · rename_i body letters hsplit
    split at h
    · cases h
    · rename_i modifiers hmodifiers
      split at h
      · rename_i r hr
        cases h
        unfold regexOf? at hr
        split at hr
        · cases hr
        · rename_i e he
          split at hr
          · rename_i r' flags hmeaning
            split at hr
            · obtain rfl := Option.some.inj hr
              exact ⟨body, letters, modifiers, e, flags, hsplit, hmodifiers, he, hmeaning⟩
            · cases hr
          · cases hr
      · cases h

theorem numbered_of_compile (h : compile p = .ok pattern) : pattern.regex.Numbered := by
  obtain ⟨body, letters, modifiers, e, flags, _, _, hread, hmeaning⟩ := exists_of_compile h
  unfold Expr.read? at hread
  split at hread
  · rename_i e' state hbody
    split at hread
    · obtain rfl := Option.some.inj hread
      exact numbered_meaning (numbered_readBody hbody nofun nofun) hmeaning
    · cases hread
  · cases hread

theorem isAnchored_of_standsAlone (h : compile p = .ok pattern) (hbody : standsAlone p = true) :
    pattern.regex.isAnchored = true := by
  obtain ⟨body, letters, modifiers, e, flags, hsplit, hmodifiers, hread, hmeaning⟩ :=
    exists_of_compile h
  simp only [standsAlone, hsplit, hmodifiers] at hbody
  obtain ⟨e', he'⟩ := Option.isSome_iff_exists.1 hbody
  rcases read_anchored he' with hanchored | ⟨-, hnone⟩
  · rw [hanchored] at hread
    split at hread
    · obtain rfl := Option.some.inj hread
      rw [meaning_anchored] at hmeaning
      obtain ⟨⟨r, _⟩, _, heq⟩ := Option.map_eq_some_iff.1 hmeaning
      obtain ⟨hregex, -⟩ := Prod.mk.inj heq
      rw [← hregex]
      exact Bool.and_eq_true_iff.2 ⟨rfl, Bool.or_true _⟩
    · cases hread
  · rw [hnone] at hread
    cases hread

/-- The first group of a match is a stretch that the expression spans. -/
theorem captures_of_isMatch (hnumbered : pattern.regex.Numbered)
    (h : pattern.isMatch s = true) :
    ∃ i j groups, pattern.captures s = some (some (Span.of (i, j) s) :: groups) ∧
      pattern.regex.Spans s i j := by
  obtain ⟨i, j, hspans⟩ := (matchesWithin_iff _ _).1 h
  obtain ⟨spans, hsearch⟩ := Option.ne_none_iff_exists'.1 (search_ne_none hspans)
  obtain ⟨i, j, hhead, hspans⟩ := spans_of_search hnumbered hsearch
  obtain ⟨rest, rfl⟩ := List.head?_eq_some_iff.1 hhead
  refine ⟨i, j, rest.map fun span => span.map fun span => span.of s, ?_, hspans⟩
  simp only [captures, h, if_true, hsearch]
  rfl

/-- A delimited pattern whose body is a pattern of its own, or which is visibly bound to both ends
of the text, matches nothing but whole subjects: the first group is all of the subject. -/
theorem captures_whole (hcompile : compile p = .ok pattern)
    (hbody : standsAlone p = true ∨ pattern.regex.isAnchored = true)
    (hmatch : matchesPattern p s = true) :
    ∃ groups, pattern.captures s = some (some s :: groups) := by
  have hanchored := hbody.elim (isAnchored_of_standsAlone hcompile) id
  rw [matchesPattern, hcompile] at hmatch
  obtain ⟨i, j, groups, hcaptures, hspans⟩ :=
    captures_of_isMatch (numbered_of_compile hcompile) hmatch
  obtain ⟨rfl, rfl⟩ := whole_of_isAnchored hanchored hspans
  refine ⟨groups, ?_⟩
  rw [hcaptures, Span.of, List.drop_zero, Nat.sub_zero, List.take_length]

/-- A body of two alternatives with a group in the second, and a body that closes the added group
and opens another one in front of the last anchor. -/
theorem captures_whole_groups :
    (∃ pattern, compile "/a|(b)c/".toList = .ok pattern ∧ standsAlone "/a|(b)c/".toList = true ∧
      matchesPattern "/a|(b)c/".toList "bc".toList = true ∧
      ∃ groups, pattern.captures "bc".toList = some (some "bc".toList :: groups)) ∧
    ∃ pattern, compile "/a)(?:b/".toList = .ok pattern ∧ standsAlone "/a)(?:b/".toList = false ∧
      pattern.regex.isAnchored = true ∧ matchesPattern "/a)(?:b/".toList "ab".toList = true ∧
      ∃ groups, pattern.captures "ab".toList = some (some "ab".toList :: groups) := by
  have halone : compile "/a|(b)c/".toList = .ok ⟨anchored "a|(b)c".toList,
      Regex.anchored (.alt (Regex.char 'a')
        (.seq (.group 1 (Regex.char 'b')) (Regex.char 'c')))⟩ := rfl
  have hclosing : compile "/a)(?:b/".toList = .ok ⟨anchored "a)(?:b".toList,
      .seq (.look .textStart) (.seq (.scope (Regex.char 'a'))
        (.seq (.scope (Regex.char 'b')) (.look .textEnd)))⟩ := rfl
  have hboth : matchesPattern "/a|(b)c/".toList "bc".toList = true := rfl
  have hparts : matchesPattern "/a)(?:b/".toList "ab".toList = true := rfl
  exact ⟨⟨_, halone, rfl, hboth, captures_whole halone (Or.inl rfl) hboth⟩,
    _, hclosing, rfl, rfl, hparts, captures_whole hclosing (Or.inr rfl) hparts⟩

/-- A body that closes the group leaves each anchor to one of two alternatives. -/
def escaped : Regex :=
  .alt (.seq (.look .textStart) (.scope (Regex.char 'a')))
    (.seq (.scope (Regex.char 'b')) (.look .textEnd))

theorem spans_escaped (h : escaped.Spans "ax".toList i j) : (i, j) = (0, 1) := by
  rcases spans_alt.1 h with h | h
  · obtain ⟨k, hstart, hbody⟩ := spans_seq.1 h
    obtain ⟨rfl, hle, hholds⟩ := spans_look.1 hstart
    obtain ⟨rfl, c, hc, _⟩ := spans_chars.1 (spans_scope.1 hbody)
    match k with
    | 0 => rfl
    | 1 => cases hholds
    | k + 2 => cases hc
  · obtain ⟨k, hbody, _⟩ := spans_seq.1 h
    obtain ⟨rfl, c, hc, hset⟩ := spans_chars.1 (spans_scope.1 hbody)
    match i with
    | 0 =>
      obtain rfl := Option.some.inj hc
      cases hset
    | 1 =>
      obtain rfl := Option.some.inj hc
      cases hset
    | i + 2 => cases hc

/-- The pattern matches a subject of which its first group is a part only. -/
theorem captures_escaped :
    ∃ pattern groups, compile "/a)|(?:b/".toList = .ok pattern ∧
      matchesPattern "/a)|(?:b/".toList "ax".toList = true ∧
      pattern.captures "ax".toList = some (some "a".toList :: groups) := by
  have hcompile : compile "/a)|(?:b/".toList = .ok ⟨anchored "a)|(?:b".toList, escaped⟩ := rfl
  obtain ⟨i, j, groups, hcaptures, hspans⟩ := captures_of_isMatch (s := "ax".toList)
    (numbered_of_compile hcompile) rfl
  obtain ⟨rfl, rfl⟩ := Prod.mk.inj (spans_escaped hspans)
  exact ⟨_, groups, hcompile, rfl, hcaptures⟩

end FormRules.Pattern
