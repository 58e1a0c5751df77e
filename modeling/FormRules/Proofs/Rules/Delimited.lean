import FormRules.Pattern.Delimited
import FormRules.Proofs.Rules.Pairs

/-!
# Delimited patterns in rule texts

A rule text and a delimited pattern find the end of the same value in different ways.  The pattern
honours backslashes; the rule text takes the first slash after which only letters and blank
characters stand before a bar, and finds none behind a line feed.  They agree exactly on the bodies
that have no such slash and not both a line feed and a bar.

The two are `parse_rules` and `split_delimited`; the first follows the pair pattern of the
specification, section 4.1, to the letter.
-/

namespace FormRules

open FormRules.Text

namespace RuleText

variable {s value rest : List Char}

/-! ### Where values stand -/

/-- A value in slashes and what is left start and end the text; between them are blank characters
and the bar. -/
theorem closing?_eq_some {letters : List Char} (h : closing? s = some (letters, rest)) :
    (∀ c ∈ letters, c.isAlpha = true) ∧ ∃ blanks, AllBlank blanks ∧
      (s = letters ++ blanks ++ '|' :: rest ∨ rest = [] ∧ s = letters ++ blanks) := by
  have hletters : ∀ c ∈ s.takeWhile Char.isAlpha, c.isAlpha = true := fun c hc =>
    List.mem_takeWhile_imp hc
  have hblanks : AllBlank ((s.dropWhile Char.isAlpha).takeWhile isBlank) := fun c hc =>
    List.mem_takeWhile_imp hc
  have hsplit : s = s.takeWhile Char.isAlpha ++ (s.dropWhile Char.isAlpha).takeWhile isBlank ++
      trimStart (s.dropWhile Char.isAlpha) := by
    rw [List.append_assoc, trimStart, List.takeWhile_append_dropWhile,
      List.takeWhile_append_dropWhile]
  simp only [closing?] at h
  split at h
  · rename_i hnil
    obtain ⟨rfl, rfl⟩ := Prod.mk.inj (Option.some.inj h)
    rw [hnil, List.append_nil] at hsplit
    exact ⟨hletters, _, hblanks, Or.inr ⟨rfl, hsplit⟩⟩
  · rename_i c left hcons
    split at h
    · rename_i hbar
      obtain ⟨rfl, rfl⟩ := Prod.mk.inj (Option.some.inj h)
      rw [hcons, hbar] at hsplit
      exact ⟨hletters, _, hblanks, Or.inl hsplit⟩
    · cases h

/-- A value in slashes either ends at its first character or goes on behind it. -/
theorem slashedValue?_cons {c : Char} (h : slashedValue? (c :: s) = some (value, rest)) :
    (∃ letters, c = '/' ∧ value = '/' :: letters ∧ closing? s = some (letters, rest)) ∨
      ∃ inner, c ≠ '\n' ∧ value = c :: inner ∧ slashedValue? s = some (inner, rest) := by
  unfold slashedValue? at h
  split at h
  · rename_i letters left hclose
    obtain ⟨rfl, rfl⟩ := Prod.mk.inj (Option.some.inj h)
    split at hclose
    · rename_i hc
      exact Or.inl ⟨letters, hc, rfl, hclose⟩
    · cases hclose
  · split at h
    · cases h
    · rename_i hc
      obtain ⟨⟨inner, left⟩, hread, heq⟩ := Option.map_eq_some_iff.1 h
      obtain ⟨rfl, rfl⟩ := Prod.mk.inj heq
      exact Or.inr ⟨inner, hc, rfl, hread⟩

theorem slashedValue?_eq_some (h : slashedValue? s = some (value, rest)) :
    ∃ blanks, AllBlank blanks ∧
      (s = value ++ blanks ++ '|' :: rest ∨ rest = [] ∧ s = value ++ blanks) := by
  induction s generalizing value with
  | nil => cases h
  | cons c s ih =>
    rcases slashedValue?_cons h with ⟨letters, rfl, rfl, hclose⟩ | ⟨inner, _, rfl, hread⟩
    · obtain ⟨_, blanks, hblanks, hs⟩ := closing?_eq_some hclose
      refine ⟨blanks, hblanks, hs.imp (fun hs => ?_) fun hs => ⟨hs.1, ?_⟩⟩
      · rw [hs, List.cons_append, List.cons_append]
      · rw [hs.2, List.cons_append]
    · obtain ⟨blanks, hblanks, hs⟩ := ih hread
      refine ⟨blanks, hblanks, hs.imp (fun hs => ?_) fun hs => ⟨hs.1, ?_⟩⟩
      · rw [hs, List.cons_append, List.cons_append]
      · rw [hs.2, List.cons_append]

theorem isInfix_plainValue? (h : plainValue? s = some (value, rest)) :
    value <:+: s ∧ rest <:+ s := by
  unfold plainValue? at h
  split at h
  · cases h
  · rename_i c left hcons
    obtain ⟨rfl, rfl⟩ := Prod.mk.inj (Option.some.inj h)
    rw [← hcons]
    exact ⟨(isInfix_trim _).trans (List.takeWhile_prefix isPlain).isInfix,
      List.dropWhile_suffix isPlain⟩

theorem isInfix_slashedValue? (h : slashedValue? s = some (value, rest)) :
    value <+: s ∧ rest <:+ s := by
  obtain ⟨blanks, _, hs | ⟨rfl, hs⟩⟩ := slashedValue?_eq_some h
  · refine ⟨⟨blanks ++ '|' :: rest, ?_⟩, ⟨value ++ blanks ++ ['|'], ?_⟩⟩
    · rw [hs, List.append_assoc]
    · rw [hs, List.append_assoc, List.singleton_append]
  · exact ⟨⟨blanks, hs.symm⟩, List.nil_suffix⟩

theorem isInfix_value? (h : value? s = some (value, rest)) : value <:+: s ∧ rest <:+ s := by
  have htrim : trimStart s <:+ s := List.dropWhile_suffix isBlank
  unfold value? at h
  split at h
  · exact isInfix_plainValue? h
  · rename_i c left hcons
    split at h
    · rename_i inner next hread
      obtain ⟨rfl, rfl⟩ := Prod.mk.inj (Option.some.inj h)
      split at hread
      · rename_i hc
        obtain ⟨hvalue, hrest⟩ := isInfix_slashedValue? hread
        rw [hcons, hc] at htrim
        refine ⟨List.IsInfix.trans ?_ htrim.isInfix, ?_⟩
        · exact ((List.prefix_cons_inj '/').2 hvalue).isInfix
        · exact (hrest.trans (List.suffix_cons _ _)).trans htrim
      · cases hread
    · exact isInfix_plainValue? h

theorem isInfix_valueOfName? (h : valueOfName? s = some (value, rest)) :
    value <:+: s ∧ rest <:+ s := by
  have htrim : trimStart s <:+ s := List.dropWhile_suffix isBlank
  unfold valueOfName? at h
  split at h
  · cases h
  · rename_i c left hcons
    rw [hcons] at htrim
    split at h
    · obtain ⟨hvalue, hrest⟩ := isInfix_value? h
      have hleft := (List.suffix_cons c left).trans htrim
      exact ⟨hvalue.trans hleft.isInfix, hrest.trans hleft⟩
    · cases h

/-- Each value of a text is a part of it. -/
theorem infix_of_mem_pairs {name : List Char} (h : (name, value) ∈ pairs s) : value <:+: s := by
  fun_induction pairs s with
  | case1 => exact absurd h List.not_mem_nil
  | case2 c left halpha afterName value' next hvalue _ ih =>
    have hafter : afterName <:+ c :: left :=
      (List.dropWhile_suffix _).trans (List.suffix_cons c left)
    obtain ⟨hpart, hnext⟩ := isInfix_valueOfName? hvalue
    rcases List.mem_cons.1 h with heq | h
    · obtain ⟨_, rfl⟩ := Prod.mk.inj heq
      exact hpart.trans hafter.isInfix
    · exact (ih h).trans (hnext.trans hafter).isInfix
  | case3 c left halpha afterName hvalue ih =>
    have hafter : afterName <:+ c :: left :=
      (List.dropWhile_suffix _).trans (List.suffix_cons c left)
    exact (ih h).trans hafter.isInfix
  | case4 c left halpha ih => exact (ih h).trans (List.suffix_cons c left).isInfix

/-! ### Slashes that end a value -/

/-- A part of a text without a character ends before the character stands. -/
theorem length_le_of_append_eq {c : Char} {a b u w : List Char} (h : a ++ c :: b = u ++ w)
    (hu : c ∉ u) : u.length ≤ a.length := by
  refine Nat.le_of_not_lt fun hlt => hu ?_
  have hget : (a ++ c :: b)[a.length]? = some c := by simp
  rw [h, List.getElem?_append_left hlt] at hget
  exact List.mem_of_getElem? hget

/-- The last place of a character is the last. -/
theorem length_le_of_append_cons_eq {c : Char} {a b u w : List Char}
    (h : a ++ c :: b = u ++ c :: w) (hw : c ∉ w) : a.length ≤ u.length := by
  have hreverse : b.reverse ++ c :: a.reverse = w.reverse ++ c :: u.reverse := by
    simpa using congrArg List.reverse h
  have hle := length_le_of_append_eq hreverse fun hmem => hw (List.mem_reverse.1 hmem)
  have hlength := congrArg List.length h
  simp only [List.length_append, List.length_cons, List.length_reverse] at hle hlength
  omega

/-- A slash in the body after which only letters and blank characters stand before a bar. -/
def ClosesEarly (body : List Char) : Prop :=
  ∃ first letters blanks last, body = first ++ '/' :: (letters ++ blanks ++ '|' :: last) ∧
    (∀ c ∈ letters, c.isAlpha = true) ∧ AllBlank blanks

theorem ClosesEarly.cons {body : List Char} (h : ClosesEarly body) (c : Char) :
    ClosesEarly (c :: body) := by
  obtain ⟨first, letters, blanks, last, rfl, hletters, hblanks⟩ := h
  exact ⟨c :: first, letters, blanks, last, rfl, hletters, hblanks⟩

theorem slash_not_mem {letters blanks : List Char} (hletters : ∀ c ∈ letters, c.isAlpha = true)
    (hblanks : AllBlank blanks) : '/' ∉ letters ++ blanks := by
  intro h
  rcases List.mem_append.1 h with h | h
  · exact nomatch hletters _ h
  · exact nomatch hblanks _ h

theorem closesEarly_of_closing? {body letters : List Char} {s : List Char}
    (h : closing? (body ++ '/' :: s) = some (letters, rest)) : ClosesEarly ('/' :: body) := by
  obtain ⟨hletters, blanks, hblanks, hs | ⟨_, hs⟩⟩ := closing?_eq_some h
  · have hslash := slash_not_mem hletters hblanks
    have hle := length_le_of_append_eq hs hslash
    obtain ⟨last, rfl⟩ := List.prefix_of_prefix_length_le ⟨_, hs.symm⟩ (List.prefix_append _ _) hle
    rw [List.append_assoc] at hs
    have hlast := List.append_cancel_left hs
    cases last with
    | nil => cases hlast
    | cons c last =>
      obtain rfl := (List.cons.inj hlast).1
      exact ⟨[], letters, blanks, last, rfl, hletters, hblanks⟩
  · have hmem : '/' ∈ letters ++ blanks := hs ▸ List.mem_append_right _ List.mem_cons_self
    exact absurd hmem (slash_not_mem hletters hblanks)

/-- A character of a body without early ends does not close the value. -/
theorem closing?_of_not_closesEarly {c : Char} {body : List Char} (h : ¬ClosesEarly (c :: body))
    (s : List Char) : (if c = '/' then closing? (body ++ '/' :: s) else none) = none := by
  split
  · rename_i hc
    subst hc
    cases hclose : closing? (body ++ '/' :: s) with
    | none => rfl
    | some parts => exact absurd (closesEarly_of_closing? hclose) h
  · rfl

theorem slashedValue?_whole {body modifiers : List Char} (hline : '\n' ∉ body)
    (hearly : ¬ClosesEarly body) (hmodifiers : ∀ c ∈ modifiers, c.isAlpha = true)
    (hrest : StartsBar rest) :
    slashedValue? (body ++ '/' :: (modifiers ++ rest)) =
      some (body ++ '/' :: modifiers, rest.tail) := by
  induction body with
  | nil =>
    have hnone : AllBlank [] := List.forall_mem_nil _
    have hclose := closing?_written hmodifiers hnone hrest
    rw [List.nil_append] at hclose
    rw [List.nil_append, slashedValue?, if_pos rfl, hclose]
    rfl
  | cons c body ih =>
    rw [List.mem_cons, not_or] at hline
    rw [List.cons_append, slashedValue?, closing?_of_not_closesEarly hearly]
    simp only [if_neg (Ne.symm hline.1), ih hline.2 fun h => hearly (h.cons c)]
    rfl

theorem slashedValue?_line {body : List Char} (hline : '\n' ∈ body) (hearly : ¬ClosesEarly body)
    (s : List Char) : slashedValue? (body ++ '/' :: s) = none := by
  induction body with
  | nil => exact absurd hline List.not_mem_nil
  | cons c body ih =>
    rw [List.cons_append, slashedValue?, closing?_of_not_closesEarly hearly]
    by_cases hc : c = '\n'
    · exact if_pos hc
    · have hmem := (List.mem_cons.1 hline).resolve_left (Ne.symm hc)
      simp only [if_neg hc, ih hmem fun h => hearly (h.cons c)]
      rfl

theorem line_not_mem_slashedValue? (h : slashedValue? s = some (value, rest)) : '\n' ∉ value := by
  induction s generalizing value with
  | nil => cases h
  | cons c s ih =>
    intro hmem
    rcases slashedValue?_cons h with ⟨letters, rfl, rfl, hclose⟩ | ⟨inner, hc, rfl, hread⟩
    · rcases List.mem_cons.1 hmem with hmem | hmem
      · cases hmem
      · exact nomatch (closing?_eq_some hclose).1 _ hmem
    · rcases List.mem_cons.1 hmem with heq | hmem
      · exact hc heq.symm
      · exact ih hread hmem

theorem bar_not_mem_plainValue? (h : plainValue? s = some (value, rest)) : '|' ∉ value := by
  unfold plainValue? at h
  split at h
  · cases h
  · rename_i c left hcons
    obtain ⟨rfl, rfl⟩ := Prod.mk.inj (Option.some.inj h)
    intro hmem
    rw [← hcons] at hmem
    exact absurd (List.mem_takeWhile_imp ((isInfix_trim _).subset hmem)) (by decide)

/-- A slash that closes a value early ends it there or before. -/
theorem slashedValue?_early {first letters blanks : List Char} (last : List Char)
    (hline : '\n' ∉ first) (hletters : ∀ c ∈ letters, c.isAlpha = true)
    (hblanks : AllBlank blanks) :
    ∃ value next, slashedValue? (first ++ '/' :: (letters ++ blanks ++ '|' :: last)) =
      some (value, next) ∧ last.length ≤ next.length := by
  induction first with
  | nil =>
    have hbar : StartsBar ('|' :: last) := by rintro c ⟨⟩; rfl
    have hclose := closing?_written hletters hblanks hbar
    rw [List.nil_append, List.append_assoc, slashedValue?, if_pos rfl, hclose]
    exact ⟨_, _, rfl, Nat.le_refl _⟩
  | cons c first ih =>
    rw [List.mem_cons, not_or] at hline
    obtain ⟨value, next, hread, hlength⟩ := ih hline.2
    rw [List.cons_append, slashedValue?]
    cases hclose : if c = '/' then closing? (first ++ '/' :: (letters ++ blanks ++ '|' :: last))
        else none with
    | none =>
      simp only [if_neg (Ne.symm hline.1), hread]
      exact ⟨_, _, rfl, hlength⟩
    | some parts =>
      obtain ⟨letters', next'⟩ := parts
      refine ⟨_, _, rfl, ?_⟩
      split at hclose
      · obtain ⟨hletters', blanks', hblanks', hs | ⟨_, hs⟩⟩ := closing?_eq_some hclose
        · have hle := length_le_of_append_eq hs (slash_not_mem hletters' hblanks')
          have hcount := congrArg List.length hs
          simp only [List.length_append, List.length_cons] at hcount hle
          omega
        · have hmem : '/' ∈ letters' ++ blanks' :=
            hs ▸ List.mem_append_right _ List.mem_cons_self
          exact absurd hmem (slash_not_mem hletters' hblanks')
      · cases hclose

/-! ### A pattern between other text -/

theorem eq_of_split? {p body modifiers : List Char} (hslash : p.head? = some '/')
    (hsplit : Pattern.Delimited.split? p = .ok (body, modifiers)) :
    p = '/' :: (body ++ '/' :: modifiers) := by
  obtain ⟨left, rfl⟩ := List.head?_eq_some_iff.1 hslash
  have hsolid : trimStart ('/' :: left) = '/' :: left :=
    trimStart_of_solid (by rintro c ⟨⟩; rfl)
  have hopens : Pattern.Delimited.isDelimiter '/' = true := rfl
  rw [Pattern.Delimited.split?, hsolid] at hsplit
  simp only [hopens, if_true] at hsplit
  split at hsplit
  · rename_i parts hscan
    cases hsplit
    exact congrArg ('/' :: ·) (Pattern.Delimited.scanBody_append hscan)
  · cases hsplit

/-- What follows the pattern. -/
def required : List Char := "|required:true".toList

theorem toList_withPattern (p : List Char) :
    ("regex:" ++ String.ofList p ++ "|required:true").toList =
      "regex:".toList ++ p ++ required := by
  unfold required
  simp only [String.toList_append, String.toList_ofList]

theorem pairs_required : pairs required = [("required".toList, "true".toList)] := by
  have hvalue : valueOfName? ":true".toList = some ("true".toList, []) := rfl
  have hname : ∀ c ∈ "required".toList, c.isAlpha = true := List.all_eq_true.1 rfl
  have hread := pairs_name (by decide) hname (by rintro c ⟨⟩; rfl) hvalue
  have hend : pairs [] = [] := by rw [pairs]
  rw [hend] at hread
  exact (pairs_skip rfl).trans hread

theorem pairs_regex {p next : List Char} (hvalue : value? (p ++ required) = some (value, next)) :
    pairs (trim ("regex:".toList ++ p ++ required)) = ("regex".toList, value) :: pairs next := by
  have hname : ∀ c ∈ "regex".toList, c.isAlpha = true := List.all_eq_true.1 rfl
  have hends : EndsSolid required := by rintro c ⟨⟩; rfl
  have htrim : trim ("regex:".toList ++ p ++ required) = "regex:".toList ++ p ++ required := by
    rw [trim, List.append_assoc, trimStart_of_solid (by rintro c ⟨⟩; rfl), ← List.append_assoc,
      trimEnd_of_solid (hends.append (by decide) _)]
  have hnone : AllBlank [] := List.forall_mem_nil _
  have hseparated := valueOfName?_separated hnone (Or.inl rfl) (p ++ required)
  rw [htrim]
  exact pairs_name (by decide) hname (by rintro c ⟨⟩; rfl) (hseparated.trans hvalue)

theorem startsBar_required : StartsBar required := by
  rintro c ⟨⟩
  rfl

theorem value?_slashed (s : List Char) :
    value? ('/' :: s) = match slashedValue? s with
      | some (value, rest) => some ('/' :: value, rest)
      | none => plainValue? ('/' :: s) := by
  have hsolid : trimStart ('/' :: s) = '/' :: s := trimStart_of_solid (by rintro c ⟨⟩; rfl)
  rw [value?, hsolid]
  rfl

variable {body modifiers : List Char}

theorem pattern_append (s : List Char) : '/' :: (body ++ '/' :: modifiers) ++ s =
    '/' :: (body ++ '/' :: (modifiers ++ s)) := by
  rw [List.cons_append, List.append_assoc, List.cons_append]

theorem isBareText_delimited (hbar : '|' ∉ body) (hmodifiers : ∀ c ∈ modifiers, c.isAlpha = true) :
    IsBareText ('/' :: (body ++ '/' :: modifiers)) where
  ne_nil := List.cons_ne_nil _ _
  noBar h := by
    rcases List.mem_cons.1 h with h | h
    · cases h
    rcases List.mem_append.1 h with h | h
    · exact hbar h
    rcases List.mem_cons.1 h with h | h
    · cases h
    · exact nomatch hmodifiers _ h
  starts := by
    rintro c ⟨⟩
    rfl
  ends := by
    rw [← List.cons_append]
    refine EndsSolid.append (fun c hc => ?_) (List.cons_ne_nil _ _) _
    rw [List.getLast?_cons] at hc
    obtain rfl := Option.some.inj hc
    cases hlast : modifiers.getLast? with
    | none => rfl
    | some d => exact isBlank_of_isAlpha (hmodifiers d (List.mem_of_getLast? hlast))

/-- The value is the whole pattern. -/
theorem value?_of_not_closesEarly (hearly : ¬ClosesEarly body)
    (hmodifiers : ∀ c ∈ modifiers, c.isAlpha = true) (hline : '\n' ∉ body ∨ '|' ∉ body) :
    ∃ next, value? ('/' :: (body ++ '/' :: modifiers) ++ required) =
      some ('/' :: (body ++ '/' :: modifiers), next) ∧ pairs next = pairs required := by
  by_cases hmem : '\n' ∈ body
  · have hbar := hline.resolve_left (not_not_intro hmem)
    have hnone : AllBlank [] := List.forall_mem_nil _
    have hplain := plainValue?_written (isBareText_delimited hbar hmodifiers) hnone hnone
      startsBar_required
    rw [List.nil_append, List.append_nil] at hplain
    refine ⟨required, ?_, rfl⟩
    rw [pattern_append, value?_slashed, slashedValue?_line hmem hearly, ← pattern_append]
    exact hplain
  · refine ⟨required.tail, ?_, pairs_startsBar startsBar_required⟩
    rw [pattern_append, value?_slashed,
      slashedValue?_whole hmem hearly hmodifiers startsBar_required]

theorem value?_ne_of_closesEarly (hearly : ClosesEarly body) (hline : '\n' ∉ body)
    (h : value? ('/' :: (body ++ '/' :: (modifiers ++ required))) = some (value, rest)) :
    value ≠ '/' :: (body ++ '/' :: modifiers) := by
  rintro rfl
  obtain ⟨first, letters, blanks, last, hbody, hletters, hblanks⟩ := hearly
  have hfirst : '\n' ∉ first := fun hmem => hline (hbody ▸ List.mem_append_left _ hmem)
  obtain ⟨inner, next, hread, hlength⟩ :=
    slashedValue?_early (last ++ '/' :: (modifiers ++ required)) hfirst hletters hblanks
  have htext : first ++ '/' :: (letters ++ blanks ++ '|' ::
      (last ++ '/' :: (modifiers ++ required))) = body ++ '/' :: (modifiers ++ required) := by
    simp [hbody]
  rw [htext] at hread
  rw [value?_slashed, hread] at h
  obtain ⟨hinner, rfl⟩ := Prod.mk.inj (Option.some.inj h)
  obtain rfl := (List.cons.inj hinner).2
  -- with the whole pattern taken, less would be left than stands behind the early slash
  simp only [List.length_append, List.length_cons] at hlength
  obtain ⟨blanks', _, htake | ⟨rfl, _⟩⟩ := slashedValue?_eq_some hread
  · have hcount := congrArg List.length htake
    simp only [List.length_append, List.length_cons] at hcount
    omega
  · simp at hlength

theorem value?_ne_of_line (hline : '\n' ∈ body) (hbar : '|' ∈ body) {s : List Char}
    (h : value? ('/' :: s) = some (value, rest)) : value ≠ '/' :: (body ++ '/' :: modifiers) := by
  rintro rfl
  rw [value?_slashed] at h
  split at h
  · rename_i inner left hread
    obtain ⟨hinner, rfl⟩ := Prod.mk.inj (Option.some.inj h)
    obtain rfl := (List.cons.inj hinner).2
    exact line_not_mem_slashedValue? hread (List.mem_append_left _ hline)
  · exact bar_not_mem_plainValue? h (List.mem_cons_of_mem _ (List.mem_append_left _ hbar))

/-- There is a value after a slash, and what is left stands behind the slash. -/
theorem value?_slash (s : List Char) :
    ∃ value next, value? ('/' :: s) = some (value, next) ∧ next <:+ s := by
  rw [value?_slashed]
  cases hread : slashedValue? s with
  | some parts =>
    obtain ⟨value, next⟩ := parts
    exact ⟨_, _, rfl, (isInfix_slashedValue? hread).2⟩
  | none =>
    refine ⟨_, _, rfl, ?_⟩
    change s.dropWhile isPlain <:+ s
    exact List.dropWhile_suffix isPlain

/-- Behind its first slash the pattern does not stand once more. -/
theorem not_infix_behind (hmodifiers : ∀ c ∈ modifiers, c.isAlpha = true) :
    ¬ '/' :: (body ++ '/' :: modifiers) <:+: body ++ '/' :: (modifiers ++ required) := by
  rintro ⟨a, b, hpart⟩
  have hslash : '/' ∉ modifiers ++ required := fun h => by
    rcases List.mem_append.1 h with h | h
    · exact nomatch hmodifiers _ h
    · revert h
      decide
  have hlast : (a ++ '/' :: body) ++ '/' :: (modifiers ++ b) =
      body ++ '/' :: (modifiers ++ required) := by
    rw [← hpart]
    simp
  -- the slash that ends the pattern would come after the last slash of the text
  have hle := length_le_of_append_cons_eq hlast hslash
  simp only [List.length_append, List.length_cons] at hle
  omega

end RuleText

open RuleText

/-- A rule text with a delimited pattern and another rule behind it gives the pattern as it stands,
unless the body has a slash that ends it early or both a line feed and a bar. -/
theorem get?_ofText_delimited {p body modifiers : List Char} (hslash : p.head? = some '/')
    (hsplit : Pattern.Delimited.split? p = .ok (body, modifiers))
    (hmodifiers : ∀ c ∈ modifiers, c.isAlpha = true) :
    ((RulePairs.ofText ("regex:" ++ String.ofList p ++ "|required:true")).get? "regex" =
        some (String.ofList p) ∧
      (RulePairs.ofText ("regex:" ++ String.ofList p ++ "|required:true")).get? "required" =
        some "true") ↔ ¬ClosesEarly body ∧ ('\n' ∉ body ∨ '|' ∉ body) := by
  obtain rfl := eq_of_split? hslash hsplit
  rw [RulePairs.ofText, toList_withPattern]
  constructor
  · -- a later pair cannot have the pattern for its value, so the first one must
    rintro ⟨hregex, _⟩
    obtain ⟨value, next, hvalue, hnext⟩ := value?_slash (body ++ '/' :: (modifiers ++ required))
    have hread : value? ('/' :: (body ++ '/' :: modifiers) ++ required) = some (value, next) := by
      rw [pattern_append]
      exact hvalue
    have hwhole : value = '/' :: (body ++ '/' :: modifiers) := by
      rw [pairs_regex hread, NameMap.get?_ofList] at hregex
      obtain ⟨entry, hfind, heq⟩ := Option.map_eq_some_iff.1 hregex
      obtain ⟨⟨name, other⟩, hmem, rfl⟩ :=
        List.mem_map.1 (List.mem_reverse.1 (List.mem_of_find?_eq_some hfind))
      obtain rfl := String.ofList_injective heq
      rcases List.mem_cons.1 hmem with hhead | hmem
      · exact (Prod.mk.inj hhead).2.symm
      · exact absurd ((infix_of_mem_pairs hmem).trans hnext.isInfix) (not_infix_behind hmodifiers)
    have hline : '\n' ∉ body ∨ '|' ∉ body := by
      by_cases hmem : '\n' ∈ body
      · exact Or.inr fun hbar => value?_ne_of_line hmem hbar hvalue hwhole
      · exact Or.inl hmem
    refine ⟨fun hearly => ?_, hline⟩
    have hbar : '|' ∈ body := by
      obtain ⟨first, letters, blanks, last, rfl, _⟩ := hearly
      simp
    exact value?_ne_of_closesEarly hearly (hline.resolve_right (not_not_intro hbar)) hvalue hwhole
  · rintro ⟨hearly, hline⟩
    obtain ⟨next, hvalue, hnext⟩ := value?_of_not_closesEarly hearly hmodifiers hline
    rw [pairs_regex hvalue, hnext, pairs_required]
    simp only [List.map_cons, List.map_nil, String.ofList_toList, NameMap.ofList, List.foldl_cons,
      List.foldl_nil, NameMap.get?_insert]
    exact ⟨rfl, rfl⟩

theorem get?_ofText_alternatives :
    Pattern.Delimited.split? "/a|b/i".toList = .ok ("a|b".toList, "i".toList) ∧
      ¬ClosesEarly "a|b".toList ∧
      (RulePairs.ofText "regex:/a|b/i|required:true").get? "regex" = some "/a|b/i" ∧
      (RulePairs.ofText "regex:/a|b/i|required:true").get? "required" = some "true" := by
  have hsplit : Pattern.Delimited.split? "/a|b/i".toList = .ok ("a|b".toList, "i".toList) := rfl
  have hearly : ¬ClosesEarly "a|b".toList := by
    rintro ⟨first, letters, blanks, last, hbody, _⟩
    have hmem : '/' ∈ "a|b".toList := hbody ▸ List.mem_append_right _ List.mem_cons_self
    exact absurd hmem (by decide)
  have hmodifiers : ∀ c ∈ "i".toList, c.isAlpha = true := List.all_eq_true.1 rfl
  have hrules := (get?_ofText_delimited rfl hsplit hmodifiers).2 ⟨hearly, Or.inl (by decide)⟩
  rw [String.ofList_toList] at hrules
  exact ⟨hsplit, hearly, hrules⟩

/-- Two patterns that the value ends before: at an escaped slash before a bar, and at the bar of a
body that has a line feed as well. -/
theorem get?_ofText_cutShort :
    (Pattern.Delimited.split? "/a\\/|b/".toList = .ok ("a\\/|b".toList, []) ∧
      (RulePairs.ofText "regex:/a\\/|b/|required:true").get? "regex" = some "/a\\/") ∧
    Pattern.Delimited.split? "/a|b\nc/".toList = .ok ("a|b\nc".toList, []) ∧
      (RulePairs.ofText "regex:/a|b\nc/|required:true").get? "regex" = some "/a" :=
  ⟨⟨rfl, by decide +kernel⟩, rfl, by decide +kernel⟩

end FormRules
