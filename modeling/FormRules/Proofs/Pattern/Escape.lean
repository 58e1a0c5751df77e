import FormRules.Proofs.Pattern.Chain
import FormRules.Proofs.Pattern.Language
import FormRules.Proofs.Pattern.Nesting
import FormRules.Proofs.Pattern.Whole
import Mathlib.Data.List.Forall2

/-!
# Escaped delimiters

A backslash takes the closing delimiter along, so that the body may hold it, and both stay in the
body.  What they mean there is up to the syntax of patterns.  A delimiter of ASCII then stands for
itself, but an angle bracket asks for the end of a word, and beyond ASCII nothing can be escaped.
`matchesPattern_escaped_closing` says which subjects match when there are letters and digits on
both sides.

`split_delimited` keeps the backslash in the body, and `compile_pattern` hands both on.
-/

namespace FormRules.Pattern

open FormRules.Text Regex

variable {opening c : Char} {a b t s : List Char}

theorem ne_of_isAlphanum {d : Char} (hc : c.isAlphanum = true) (hd : d.isAlphanum = false) :
    c ≠ d := by
  rintro rfl
  rw [hc] at hd
  cases hd

/-! ### Where the body ends -/

namespace Delimited

theorem CanOpen.not_isAlphanum (h : CanOpen opening) : opening.isAlphanum = false := by
  refine Bool.eq_false_iff.2 fun halphanum => ?_
  have hone := isAlphanumeric_of_isAlphanum halphanum
  rw [h.notAlphanumeric] at hone
  cases hone

theorem CanOpen.closing_not_isAlphanum (h : CanOpen opening) :
    (closing opening).isAlphanum = false := by
  have hopening := h.not_isAlphanum
  unfold closing
  split
  · rfl
  · rfl
  · rfl
  · rfl
  · exact hopening

theorem closing_ne_less (opening : Char) : closing opening ≠ '<' := by
  unfold closing
  split
  · decide
  · decide
  · decide
  · decide
  · assumption

/-- The scan passes over letters and digits. -/
theorem scanBody_alphanumeric (hopen : CanOpen opening) (ht : ∀ c ∈ t, c.isAlphanum = true)
    (rest : List Char) :
    scanBody opening (closing opening) 0 false (t ++ rest) =
      (scanBody opening (closing opening) 0 false rest).map (prepend t) := by
  induction t with
  | nil => exact Option.map_id'.symm
  | cons c t ih =>
    obtain ⟨hc, ht⟩ := List.forall_mem_cons.1 ht
    have hback : c ≠ '\\' := ne_of_isAlphanum hc rfl
    have hopening : c ≠ opening := ne_of_isAlphanum hc hopen.not_isAlphanum
    have hclosing : c ≠ closing opening := ne_of_isAlphanum hc hopen.closing_not_isAlphanum
    rw [List.cons_append, scanBody, if_neg hback, if_neg fun h => hopening h.2, if_neg hclosing,
      ih ht, Option.map_map]
    rfl

/-- The body goes on behind an escaped closing delimiter. -/
theorem split?_escaped_closing (hopen : CanOpen opening) (ha : ∀ c ∈ a, c.isAlphanum = true)
    (hb : ∀ c ∈ b, c.isAlphanum = true) :
    split? (opening :: (a ++ '\\' :: closing opening :: (b ++ [closing opening]))) =
      .ok (a ++ '\\' :: closing opening :: b, []) := by
  have hnested : ¬(closing opening ≠ opening ∧ closing opening = opening) := fun h => h.1 h.2
  have hend : scanBody opening (closing opening) 0 false [closing opening] = some ([], []) := by
    rw [scanBody, if_neg hopen.closing_ne_backslash, if_neg hnested, if_pos rfl]
  have hscan : scanBody opening (closing opening) 0 false
      (a ++ '\\' :: closing opening :: (b ++ [closing opening])) =
        some (a ++ '\\' :: closing opening :: b, []) := by
    rw [scanBody_alphanumeric hopen ha, scanBody, if_pos rfl, scanBody,
      scanBody_alphanumeric hopen hb, hend]
    simp [prepend]
  have htrim : trimStart (opening :: (a ++ '\\' :: closing opening :: (b ++ [closing opening]))) =
      opening :: (a ++ '\\' :: closing opening :: (b ++ [closing opening])) := by
    rw [trimStart_cons, hopen.notBlank, if_neg Bool.false_ne_true]
  rw [split?_of_canOpen htrim hopen, hscan]

end Delimited

/-! ### How the body is read -/

/-- Characters that stand for themselves. -/
def Expr.literals (t : List Char) : List Expr := t.map fun c => .literal c false

theorem startsItem_backslash : StartsItem '\\' := ⟨by decide, by decide, by decide, rfl⟩

theorem startsItem_of_isAlphanum (h : c.isAlphanum = true) : StartsItem c where
  ne_close := ne_of_isAlphanum h rfl
  ne_bar := ne_of_isAlphanum h rfl
  ne_open := ne_of_isAlphanum h rfl
  not_repetition := by
    have hne {d : Char} (hd : d.isAlphanum = false) : c ≠ d := ne_of_isAlphanum h hd
    simp [isRepetition, hne (d := '?') rfl, hne (d := '*') rfl, hne (d := '+') rfl,
      hne (d := '\x7b') rfl]

variable {state : ReaderState}

theorem readBody_item (hc : StartsItem c) (hplain : state.verbose = false) {e : Expr}
    {rest rest' : List Char} (hitem : readItem false c rest = some (e, rest')) (fuel : Nat)
    (branches items : List Expr) :
    readBody (fuel + 1) state branches items (c :: rest) =
      readBody fuel state branches (e :: items) rest' := by
  simp only [readBody, hplain, skip_false, beq_iff_eq, hc.ne_close, hc.ne_bar, hc.ne_open,
    hc.not_repetition, if_false, Bool.false_eq_true, hitem]

theorem readBody_no_item (hc : StartsItem c) (hplain : state.verbose = false) {rest : List Char}
    (hitem : readItem false c rest = none) (fuel : Nat) (branches items : List Expr) :
    readBody (fuel + 1) state branches items (c :: rest) = none := by
  simp only [readBody, hplain, skip_false, beq_iff_eq, hc.ne_close, hc.ne_bar, hc.ne_open,
    hc.not_repetition, if_false, Bool.false_eq_true, hitem]

theorem readBody_nil (fuel : Nat) (state : ReaderState) (branches items : List Expr) :
    readBody (fuel + 1) state branches items [] =
      some (closeBranches branches items, state, []) := by
  obtain ⟨verbose, groups, names⟩ := state
  cases verbose <;> rfl

theorem readItem_of_isAlphanum (h : c.isAlphanum = true) (rest : List Char) :
    readItem false c rest = some (.literal c false, rest) := by
  unfold readItem
  split
  · cases h
  · cases h
  · cases h
  · cases h
  · cases h
  · rfl

/-- Letters and digits stand for themselves. -/
theorem readBody_alphanumeric (hplain : state.verbose = false)
    (ht : ∀ c ∈ t, c.isAlphanum = true) (fuel : Nat) (branches items : List Expr)
    (rest : List Char) :
    readBody (fuel + t.length) state branches items (t ++ rest) =
      readBody fuel state branches ((Expr.literals t).reverse ++ items) rest := by
  induction t generalizing items with
  | nil => rfl
  | cons c t ih =>
    obtain ⟨hc, ht⟩ := List.forall_mem_cons.1 ht
    rw [List.cons_append, List.length_cons, ← Nat.add_assoc,
      readBody_item (startsItem_of_isAlphanum hc) hplain (readItem_of_isAlphanum hc _), ih ht]
    simp only [Expr.literals, List.map_cons, List.reverse_cons, List.append_assoc,
      List.singleton_append]

/-! ### What an escaped character means -/

/-- What a backslash before a character means: one part without inner structure. -/
structure EscapesTo (c : Char) (e : Expr) (r : Regex) : Prop where
  read : ∀ rest, readEscape false (c :: rest) = some (e, rest)
  meaning : e.meaning {} = some (r, {})
  depth : ∀ place, e.depth place = 0
  turnsVerbose : e.turnsVerbose = false
  isLink : r.IsLink

/-- An ASCII character that is no letter, no digit and no angle bracket stands for itself. -/
theorem escapesTo_self (hascii : isAscii c = true) (hmark : c.isAlphanum = false)
    (hless : c ≠ '<') (hgreater : c ≠ '>') : EscapesTo c (.literal c false) (.char c) where
  read rest := by
    have hne {d : Char} (hd : d.isAlphanum = true) : c ≠ d := (ne_of_isAlphanum hd hmark).symm
    have hdigit : c.isDigit = false := (Bool.or_eq_false_iff.1 hmark).2
    have hescapable : isEscapable c = true := by
      simp [isEscapable, hascii, hmark, hless, hgreater]
    simp [readEscape, hdigit, hescapable, hne (d := 'x') rfl, hne (d := 'u') rfl,
      hne (d := 'U') rfl, hne (d := 'p') rfl, hne (d := 'P') rfl]
  meaning := rfl
  depth _ := rfl
  turnsVerbose := rfl
  isLink := .char c hascii

theorem escapesTo_wordEnd : EscapesTo '>' (.assertion .wordEnd) (.look (.wordEnd false)) where
  read _ := rfl
  meaning := rfl
  depth _ := rfl
  turnsVerbose := rfl
  isLink := .look _

/-- No character beyond ASCII can be escaped. -/
theorem readEscape_of_not_isAscii (h : isAscii c = false) (rest : List Char) :
    readEscape false (c :: rest) = none := by
  have hne {d : Char} (hd : isAscii d = true) : c ≠ d := by
    rintro rfl
    rw [h] at hd
    cases hd
  have halphanum : c.isAlphanum = false := by
    refine Bool.eq_false_iff.2 fun halphanum => ?_
    rw [isAscii_of_isAlphanum halphanum] at h
    cases h
  have hdigit : c.isDigit = false := (Bool.or_eq_false_iff.1 halphanum).2
  have hescapable : isEscapable c = false := by
    have hmeta : isMeta c = false := by
      have hmetas : "\\.+*?()|[]\x7b\x7d^$#&-~".toList.all isAscii = true := rfl
      refine Bool.eq_false_iff.2 fun hmeta => ?_
      exact hne (List.all_eq_true.1 hmetas c (List.contains_iff_mem.1 hmeta)) rfl
    rw [isEscapable, hmeta, h]
    rfl
  have hletter : letterEscape? c = none := by
    fun_cases letterEscape? c with
    | case18 => rfl
    | _ => cases h
  simp [readEscape, hdigit, hescapable, hletter, hne (d := 'x') rfl, hne (d := 'u') rfl,
    hne (d := 'U') rfl, hne (d := 'p') rfl, hne (d := 'P') rfl, hne (d := 'b') rfl]

/-! ### Bodies with an escaped character -/

theorem meaning_ofItems {flags : Flags} {items : List Expr} {parts : List Regex}
    (h : List.Forall₂ (fun e r => e.meaning flags = some (r, flags)) items parts) :
    (Expr.ofItems items).meaning flags = some (.seqs parts, flags) := by
  induction h with
  | nil => rfl
  | cons he hrest ih =>
    cases hrest with
    | nil => exact he
    | cons he' hrest =>
      simp only [Expr.ofItems, Expr.meaning, he] at ih ⊢
      rw [ih]
      rfl

theorem depth_ofItems_le {items : List Expr} (h : ∀ e ∈ items, ∀ place, e.depth place = 0)
    (place : Expr.Place) :
    (Expr.ofItems items).depth place ≤ if place = .inSequence then 0 else 1 := by
  fun_induction Expr.ofItems items generalizing place with
  | case1 => exact Nat.zero_le _
  | case2 e =>
    rw [h e List.mem_cons_self]
    exact Nat.zero_le _
  | case3 e rest hrest ih =>
    obtain ⟨he, hrest⟩ := List.forall_mem_cons.1 h
    have hzero : (Expr.ofItems rest).depth .inSequence = 0 := Nat.le_zero.1 (ih hrest .inSequence)
    rw [Expr.depth, he, hzero]
    exact Nat.le_refl _

theorem depth_anchored (e : Expr) : e.anchored.depth .alone = e.depth .alone + 2 := by
  simp only [Expr.anchored, Expr.depth, reduceCtorEq, if_true, if_false, Nat.max_eq_max]
  omega

/-- A part with a text before it and a text behind it, as written. -/
def Expr.between (e : Expr) (a b : List Char) : Expr :=
  .ofItems (Expr.literals a ++ e :: Expr.literals b)

namespace EscapesTo

variable {e : Expr} {r : Regex} (h : EscapesTo c e r)

include h

theorem meaning_between (a b : List Char) :
    (e.between a b).meaning {} = some (r.between a b, {}) := by
  have hliterals (t : List Char) : List.Forall₂
      (fun (e : Expr) r => e.meaning {} = some (r, {})) (Expr.literals t) (t.map .char) := by
    rw [Expr.literals, List.forall₂_map_left_iff, List.forall₂_map_right_iff, List.forall₂_same]
    exact fun _ _ => rfl
  exact meaning_ofItems (List.rel_append (hliterals a) (.cons h.meaning (hliterals b)))

theorem depth_between_le (a b : List Char) : (e.between a b).depth .alone ≤ 1 := by
  have hliterals (t : List Char) : ∀ e ∈ Expr.literals t, ∀ place, e.depth place = 0 := by
    intro e he
    obtain ⟨c, -, rfl⟩ := List.mem_map.1 he
    exact fun _ => rfl
  exact depth_ofItems_le (List.forall_mem_append.2
    ⟨hliterals a, List.forall_mem_cons.2 ⟨h.depth, hliterals b⟩⟩) .alone

theorem turnsVerbose_between (a b : List Char) : (e.between a b).turnsVerbose = false := by
  have hliterals (t : List Char) : (Expr.literals t).any Expr.turnsVerbose = false := by
    rw [Expr.literals, List.any_map]
    exact List.any_eq_false.2 fun _ _ => Bool.false_ne_true
  rw [Expr.between, turnsVerbose_ofItems, List.any_append, List.any_cons, hliterals, hliterals,
    h.turnsVerbose]
  rfl

theorem fits_between (a b : List Char) (ha : ∀ c ∈ a, c.isAlphanum = true)
    (hb : ∀ c ∈ b, c.isAlphanum = true) : (r.between a b).anchored.fits = true ↔
      Room.stateBytes * (a.length + b.length + 7) ≤ Room.limit := by
  have hchars {t : List Char} (ht : ∀ c ∈ t, c.isAlphanum = true) :
      ∀ r ∈ t.map Regex.char, r.IsLink := by
    intro r hr
    obtain ⟨c, hc, rfl⟩ := List.mem_map.1 hr
    exact .char c (isAscii_of_isAlphanum (ht c hc))
  have hlinks : ∀ r' ∈ a.map char ++ r :: b.map char, r'.IsLink :=
    List.forall_mem_append.2 ⟨hchars ha, List.forall_mem_cons.2 ⟨h.isLink, hchars hb⟩⟩
  have hlength : (a.map char ++ r :: b.map char).length + 6 = a.length + b.length + 7 := by
    simp only [List.length_append, List.length_cons, List.length_map]
    omega
  rw [Regex.between, fits_anchored_seqs hlinks, hlength]

theorem read?_body (ha : ∀ c ∈ a, c.isAlphanum = true) (hb : ∀ c ∈ b, c.isAlphanum = true) :
    Expr.read? false (a ++ '\\' :: c :: b) = some (e.between a b) := by
  have hfuel : (a ++ '\\' :: c :: b).length + 1 = 2 + b.length + 1 + a.length := by
    simp only [List.length_append, List.length_cons]
    omega
  have hitems : closeBranches [] ((Expr.literals b).reverse ++ e :: (Expr.literals a).reverse) =
      e.between a b := by
    simp [closeBranches, Expr.ofBranches, Expr.between]
  have hplain : (ReaderState.mk false 0 []).verbose = false := rfl
  have hrest := readBody_alphanumeric hplain hb 2 [] (e :: (Expr.literals a).reverse) []
  rw [List.append_nil, readBody_nil, hitems] at hrest
  have hread : readBody ((a ++ '\\' :: c :: b).length + 1) ⟨false, 0, []⟩ [] []
      (a ++ '\\' :: c :: b) = some (e.between a b, ⟨false, 0, []⟩, []) := by
    have hitem : readItem false '\\' (c :: b) = some (e, b) := h.read b
    rw [hfuel, readBody_alphanumeric hplain ha,
      readBody_item startsItem_backslash hplain hitem, List.append_nil]
    exact hrest
  have hdepth : (e.between a b).depth .alone ≤ maxDepth :=
    (h.depth_between_le a b).trans (by decide)
  simp only [Expr.read?, hread, if_pos hdepth]

end EscapesTo

/-! ### Patterns with an escaped closing delimiter -/

variable {e : Expr} {r : Regex}

/-- A pattern whose escaped delimiter means one part matches what the part matches between the two
texts, as far as there is room. -/
theorem matchesPattern_of_escapesTo (hopen : Delimited.CanOpen opening)
    (h : EscapesTo (Delimited.closing opening) e r) (ha : ∀ c ∈ a, c.isAlphanum = true)
    (hb : ∀ c ∈ b, c.isAlphanum = true) (s : List Char) :
    matchesPattern (opening :: (a ++ '\\' :: Delimited.closing opening ::
        (b ++ [Delimited.closing opening]))) s = true ↔
      Room.stateBytes * (a.length + b.length + 7) ≤ Room.limit ∧
        (r.between a b).MatchesWhole s := by
  have hdepth : (e.between a b).anchored.depth .alone ≤ maxDepth := by
    rw [depth_anchored]
    exact (Nat.add_le_add_right (h.depth_between_le a b) 2).trans (by decide)
  have hmodifiers : Modifiers.read? {} [] = .ok {} := rfl
  have hcompile := compile_of_body (Delimited.split?_escaped_closing hopen ha hb) hmodifiers
    (h.read?_body ha hb) (h.turnsVerbose_between a b) (h.meaning_between a b)
  rw [← h.fits_between a b ha hb, matchesPattern, hcompile]
  by_cases hfits : (r.between a b).anchored.fits = true
  · rw [if_pos ⟨hdepth, hfits⟩, and_iff_right hfits]
    exact matchesWithin_anchored _ s
  · rw [if_neg fun hboth => hfits hboth.2]
    exact ⟨fun hnone => absurd hnone Bool.false_ne_true, fun hboth => absurd hboth.1 hfits⟩

theorem compile_of_not_isAscii (hopen : Delimited.CanOpen opening)
    (h : isAscii (Delimited.closing opening) = false) (ha : ∀ c ∈ a, c.isAlphanum = true)
    (hb : ∀ c ∈ b, c.isAlphanum = true) :
    compile (opening :: (a ++ '\\' :: Delimited.closing opening ::
        (b ++ [Delimited.closing opening]))) = .error .malformed := by
  have hbody : (a ++ '\\' :: Delimited.closing opening :: b) ++ ")\\z".toList =
      a ++ '\\' :: Delimited.closing opening :: (b ++ ")\\z".toList) := by
    simp only [List.append_assoc, List.cons_append]
  have hfuel : (a ++ '\\' :: Delimited.closing opening :: b).length + 7 =
      b.length + 8 + 1 + a.length := by
    simp only [List.length_append, List.length_cons]
    omega
  have hread : Expr.read? false (anchored (a ++ '\\' :: Delimited.closing opening :: b)) =
      none := by
    have hplain : (ReaderState.mk false 0 []).verbose = false := rfl
    have hitem : readItem false '\\' (Delimited.closing opening :: (b ++ ")\\z".toList)) = none :=
      readEscape_of_not_isAscii h _
    rw [Expr.read?, readBody_anchored, hbody, hfuel, readBody_alphanumeric hplain ha,
      readBody_no_item startsItem_backslash hplain hitem]
  simp only [compile, Delimited.split?_escaped_closing hopen ha hb, Modifiers.read?, regexOf?,
    hread]

theorem holds_wordEnd (ha : ∀ c ∈ a, c.isAlphanum = true) (hb : ∀ c ∈ b, c.isAlphanum = true) :
    (Look.wordEnd false).holds a.getLast? b.head? = true ↔ a ≠ [] ∧ b = [] := by
  have hword {next : Option Char} (h : ∀ c, next = some c → c.isAlphanum = true) :
      Look.isWord false next = next.isSome := by
    cases next with
    | none => rfl
    | some c => exact isWordChar_of_isAlphanum (h c rfl)
  rw [Look.holds, hword fun c hc => ha c (List.mem_of_getLast? hc),
    hword fun c hc => hb c (List.mem_of_head? hc)]
  simp

/-- Between letters and digits an escaped closing delimiter of ASCII stands for itself, so that one
subject matches, as far as there is room for it.  An angle bracket is the exception: it asks for the
end of a word, and there is none before a letter or digit.  With a delimiter beyond ASCII nothing
matches. -/
theorem matchesPattern_escaped_closing (hopening : Delimited.isDelimiter opening = true)
    (ha : ∀ c ∈ a, c.isAlphanum = true) (hb : ∀ c ∈ b, c.isAlphanum = true) (s : List Char) :
    matchesPattern (opening :: (a ++ '\\' :: Delimited.closing opening ::
        (b ++ [Delimited.closing opening]))) s = true ↔
      Room.stateBytes * (a.length + b.length + 7) ≤ Room.limit ∧
        (isAscii (Delimited.closing opening) = true ∧ Delimited.closing opening ≠ '>' ∧
            s = a ++ Delimited.closing opening :: b ∨
          Delimited.closing opening = '>' ∧ a ≠ [] ∧ b = [] ∧ s = a) := by
  have hopen := Delimited.isDelimiter_iff.1 hopening
  by_cases hbracket : Delimited.closing opening = '>'
  · -- the end of a word
    have hescape : EscapesTo (Delimited.closing opening) (.assertion .wordEnd)
        (.look (.wordEnd false)) := hbracket ▸ escapesTo_wordEnd
    rw [matchesPattern_of_escapesTo hopen hescape ha hb, matchesWhole_look_between,
      holds_wordEnd ha hb]
    simp only [hbracket, ne_eq, not_true, false_and, and_false, true_and, false_or]
    refine and_congr_right fun _ => ⟨fun hmatch => ?_, fun hmatch => ?_⟩
    · obtain ⟨rfl, hne, rfl⟩ := hmatch
      exact ⟨hne, rfl, List.append_nil a⟩
    · obtain ⟨hne, rfl, rfl⟩ := hmatch
      exact ⟨(List.append_nil s).symm, hne, rfl⟩
  · cases hascii : isAscii (Delimited.closing opening) with
    | true =>
      have hescape := escapesTo_self hascii hopen.closing_not_isAlphanum
        (Delimited.closing_ne_less opening) hbracket
      rw [matchesPattern_of_escapesTo hopen hescape ha hb, matchesWhole_char_between]
      simp only [hbracket, ne_eq, not_false_eq_true, true_and, false_and, or_false]
    | false =>
      rw [matchesPattern, compile_of_not_isAscii hopen hascii ha hb]
      simp only [isMatchOf, hbracket, Bool.false_eq_true, false_and, or_self, and_false]

/-- An escaped parenthesis in parentheses: the subject with the parenthesis matches, and the one
without does not. -/
theorem matchesPattern_escaped_closing_parenthesis :
    Delimited.isDelimiter '(' = true ∧ (∀ c ∈ "x1".toList, c.isAlphanum = true) ∧
      (∀ c ∈ "Y".toList, c.isAlphanum = true) ∧
      matchesPattern "(x1\\)Y)".toList "x1)Y".toList = true ∧
      matchesPattern "(x1\\)Y)".toList "x1Y".toList = false := by
  have hopening : Delimited.isDelimiter '(' = true := rfl
  have ha : ∀ c ∈ "x1".toList, c.isAlphanum = true := by simp
  have hb : ∀ c ∈ "Y".toList, c.isAlphanum = true := by simp
  have hmatches := matchesPattern_escaped_closing hopening ha hb
  refine ⟨hopening, ha, hb, (hmatches _).2 ⟨by decide, Or.inl ⟨rfl, by decide, rfl⟩⟩, ?_⟩
  refine Bool.eq_false_iff.2 fun hmatch => ?_
  rcases ((hmatches _).1 hmatch).2 with ⟨-, -, hsubject⟩ | ⟨hbracket, -⟩
  · exact absurd hsubject (by decide)
  · exact absurd hbracket (by decide)

/-- In angle brackets the escaped one does not match itself, but asks for the end of a word. -/
theorem matchesPattern_escaped_angleBracket :
    Delimited.isDelimiter '<' = true ∧ Delimited.closing '<' = '>' ∧
      matchesPattern "<a\\>b>".toList "a>b".toList = false ∧
      matchesPattern "<a\\>>".toList "a>".toList = false ∧
      matchesPattern "<a\\>>".toList "a".toList = true :=
  ⟨rfl, rfl, rfl, rfl, rfl⟩

end FormRules.Pattern
