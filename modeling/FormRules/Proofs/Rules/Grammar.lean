import FormRules.Proofs.Pattern.FirstWay
import FormRules.Proofs.Rules.Scanning

/-!
# The pairs as matches of a pattern

The pairs of a rule text are the matches of `pairPattern`, found one after the other and stripped of
blank characters and of the bar that ends a value in slashes.  The preferred match is followed part
by part: every run of letters or blank characters is taken whole, because nothing that comes next
can start within it, except that the last blank character before a bar stands in for an empty value.
So a match starts exactly where a pair does, and `ofText_scans` says that the map of a rule text
holds what is read from the matches.

`pairPattern` is `RULE_PAIR_REGEX`, read by the reader of patterns.
-/

namespace FormRules

open FormRules.Text FormRules.Pattern FormRules.Pattern.Regex

namespace RuleText

/-- The pattern of a pair: a name, a separator, and a value in slashes or up to a bar. -/
def pairPattern : String :=
  "(?P<key>[a-zA-Z]+)\\s*(?::|=)\\s*(?P<value>/.*?/[a-zA-Z]*\\s*(?:\\||$)|[^|]+)"

/-! ### The expression that the pattern means -/

def letterSet : CharSet := .union (.range 'a' 'z') (.range 'A' 'Z')

def blankSet : CharSet := .property isBlank

def endGrammar : Regex := .scope (.alt (.char '|') (.look .textEnd))

/-- What stands behind the slash that ends a value. -/
def closingGrammar : Regex :=
  .seq (.star (.chars letterSet)) (.seq (.star (.chars blankSet)) endGrammar)

/-- What stands behind the slash that opens a value. -/
def slashedGrammar : Regex :=
  .seq (.repeated (.chars (.compl (.single '\n'))) 0 none false) (.seq (.char '/') closingGrammar)

def valueGrammar : Regex :=
  .alt (.seq (.char '/') slashedGrammar) (.plus (.chars (.compl (.single '|'))))

/-- What stands behind the separator. -/
def placeGrammar : Regex := .seq (.star (.chars blankSet)) (.group 2 valueGrammar)

/-- What stands behind the name. -/
def separatedGrammar : Regex :=
  .seq (.star (.chars blankSet)) (.seq (.scope (.alt (.char ':') (.char '='))) placeGrammar)

def pairGrammar : Regex := .seq (.group 1 (.plus (.chars letterSet))) separatedGrammar

def pairExpr : Expr :=
  let letters := .set false (.union (.range 'a' 'z') (.range 'A' 'Z'))
  let blanks := .repeated (.shorthand .blank false) 0 none true
  let ending := .scope [] (.alt (.literal '|' false) (.assertion .lineEnd))
  let slashed := .seq (.literal '/' false) (.seq (.repeated .dot 0 none false)
    (.seq (.literal '/' false) (.seq (.repeated letters 0 none true) (.seq blanks ending))))
  let value := .alt slashed (.repeated (.set true (.range '|' '|')) 1 none true)
  let separator := .scope [] (.alt (.literal ':' false) (.literal '=' false))
  .seq (.capture 1 (.repeated letters 1 none true))
    (.seq blanks (.seq separator (.seq blanks (.capture 2 value))))

deriving instance DecidableEq for SetExpr

deriving instance DecidableEq for Expr

theorem read?_pairPattern : Expr.read? false pairPattern.toList = some pairExpr := by
  decide +kernel

theorem regexOf?_pairPattern : Pattern.regexOf? {} pairPattern.toList = some pairGrammar := by
  have hfits : pairGrammar.fits = true := by decide +kernel
  have hmeaning : pairExpr.meaning {} = some (pairGrammar, {}) := rfl
  rw [Pattern.regexOf?, read?_pairPattern]
  simp only [hmeaning, hfits, if_true]

theorem isSteady_pairGrammar : pairGrammar.isSteady = true := rfl

/-! ### Sets -/

variable {s value rest : List Char} {x : Stand} {β : Type} {f : Stand → Option β}

theorem mem_letterSet (c : Char) : letterSet.mem c = c.isAlpha := by
  rw [letterSet, CharSet.mem_union, CharSet.mem_range_lower, CharSet.mem_range_upper, Bool.or_comm]
  rfl

theorem mem_not_bar (c : Char) : (CharSet.compl (.single '|')).mem c = isPlain c := by
  rw [CharSet.mem_compl, isPlain, bne]
  congr 1
  rw [Bool.eq_iff_iff, CharSet.mem_single, beq_iff_eq]

/-! ### The end of a value in slashes -/

theorem findSome?_end : (endGrammar.ways s x).findSome? f = match x.ahead s with
    | [] => f x
    | c :: _ => if c = '|' then f (x.forward 1) else none := by
  have hlook : (look .textEnd).ways s x = if (x.ahead s).head?.isNone then [x] else [] := by
    rw [ways, x.getElem?_position]
    rfl
  rw [endGrammar, ways, findSome?_alt, hlook]
  cases ht : x.ahead s with
  | nil =>
    rw [char, ways_chars_nil ht]
    exact List.findSome?_singleton
  | cons c t =>
    have hnone : (if (c :: t).head?.isNone then [x] else []).findSome? f = none := rfl
    rw [ways_char_cons ht, hnone, Option.or_none]
    show _ = if c = '|' then f (x.forward 1) else none
    split
    · exact List.findSome?_singleton
    · rfl

theorem findSome?_blanks (h : ∀ y c t, y.ahead s = c :: t → isBlank c = true → f y = none) :
    ((star (chars blankSet)).ways s x).findSome? f = f (past blankSet s x) :=
  findSome?_star h

theorem ahead_past_blank (x : Stand) : (past blankSet s x).ahead s = trimStart (x.ahead s) :=
  ahead_past blankSet x

theorem ahead_past_letter (x : Stand) :
    (past letterSet s x).ahead s = (x.ahead s).dropWhile Char.isAlpha := by
  have hmem : letterSet.mem = Char.isAlpha := funext mem_letterSet
  rw [ahead_past, hmem]

theorem findSome?_blanks_end : ((seq (star (chars blankSet)) endGrammar).ways s x).findSome? f =
    (endGrammar.ways s (past blankSet s x)).findSome? f := by
  rw [findSome?_seq]
  refine findSome?_blanks fun y c t hy hc => ?_
  rw [findSome?_end, hy]
  exact if_neg fun hbar => nomatch hbar ▸ hc

theorem findSome?_letters_end : (closingGrammar.ways s x).findSome? f =
    (endGrammar.ways s (past blankSet s (past letterSet s x))).findSome? f := by
  rw [closingGrammar, findSome?_seq, findSome?_star, findSome?_blanks_end]
  intro y c t hy hc
  have hletter : c.isAlpha = true := (mem_letterSet c).symm.trans hc
  have hsolid : ¬isBlank c = true := by
    rw [isBlank_of_isAlpha hletter]
    exact Bool.false_ne_true
  rw [findSome?_blanks_end, findSome?_end, ahead_past_blank, hy, trimStart,
    List.dropWhile_cons_of_neg hsolid]
  refine if_neg fun hbar => ?_
  rw [hbar] at hletter
  exact Bool.false_ne_true hletter

theorem findSome?_closing (hx : x.position ≤ s.length) :
    (closingGrammar.ways s x).findSome? f = match closing? (x.ahead s) with
      | some (_, rest) => f (x.before s rest)
      | none => none := by
  have hle : (past blankSet s (past letterSet s x)).position ≤ s.length :=
    position_past_le (position_past_le hx)
  have hahead : (past blankSet s (past letterSet s x)).ahead s =
      trimStart ((x.ahead s).dropWhile Char.isAlpha) := by
    rw [ahead_past_blank, ahead_past_letter]
  simp only [findSome?_letters_end, findSome?_end, hahead, closing?]
  cases hs : trimStart ((x.ahead s).dropWhile Char.isAlpha) with
  | nil =>
    have hsplit : (past blankSet s (past letterSet s x)).ahead s = [] ++ [] := hahead.trans hs
    have hbefore := Stand.forward_eq_before hle hsplit
    exact congrArg f hbefore
  | cons c t =>
    have hsplit : (past blankSet s (past letterSet s x)).ahead s = [c] ++ t := hahead.trans hs
    have hbefore := Stand.forward_eq_before hle hsplit
    by_cases hc : c = '|'
    · simp only [if_pos hc]
      exact congrArg f hbefore
    · simp only [if_neg hc]

theorem findSome?_slashed (hx : x.position ≤ s.length) (hf : ∀ y, f y ≠ none) :
    (slashedGrammar.ways s x).findSome? f = match slashedValue? (x.ahead s) with
      | some (_, rest) => f (x.before s rest)
      | none => none := by
  generalize ht : x.ahead s = t
  rw [slashedGrammar, findSome?_seq]
  induction t generalizing x with
  | nil =>
    rw [findSome?_lazy_nil ht, findSome?_char_nil ht]
    rfl
  | cons c t ih =>
    have hlt := Stand.position_lt ht
    have htail := Stand.ahead_forward_one ht
    -- the run is lazy: the end of the value is tried here before the run takes the character
    have hclose : ((seq (char '/') closingGrammar).ways s x).findSome? f =
        match if c = '/' then closing? t else none with
        | some (_, rest) => f (x.before s rest)
        | none => none := by
      rw [findSome?_char_cons ht]
      split
      · rw [findSome?_closing (x := x.forward 1) hlt, htail]
        rfl
      · rfl
    have hline : (CharSet.compl (.single '\n')).mem c = true ↔ ¬c = '\n' := by
      rw [CharSet.mem_compl, Bool.not_eq_true', ← Bool.not_eq_true, CharSet.mem_single]
    rw [findSome?_lazy_cons ht, hclose, ih (x := x.forward 1) hlt htail, slashedValue?]
    cases hend : if c = '/' then closing? t else none with
    | some parts =>
      obtain ⟨letters, rest⟩ := parts
      obtain ⟨b, hb⟩ := Option.ne_none_iff_exists'.1 (hf (x.before s rest))
      simp only [hb, Option.some_or]
    | none =>
      by_cases hc : c = '\n'
      · simp only [if_neg (not_not_intro hc ∘ hline.1), if_pos hc, Option.none_or]
      · simp only [if_pos (hline.2 hc), if_neg hc, Option.none_or]
        cases slashedValue? t with
        | none => rfl
        | some parts => rfl

/-! ### Values -/

theorem findSome?_value_slashed {text inner : List Char} (hf : ∀ y, f y ≠ none)
    (ht : x.ahead s = '/' :: text) (h : slashedValue? text = some (inner, rest)) :
    (valueGrammar.ways s x).findSome? f = f (x.before s rest) := by
  obtain ⟨b, hb⟩ := Option.ne_none_iff_exists'.1 (hf (x.before s rest))
  have hslashed : (slashedGrammar.ways s (x.forward 1)).findSome? f = some b := by
    rw [findSome?_slashed (x := x.forward 1) (Stand.position_lt ht) hf,
      Stand.ahead_forward_one ht, h]
    exact hb
  rw [valueGrammar, findSome?_alt, findSome?_char_cons ht, if_pos rfl, hslashed, hb]
  rfl

theorem findSome?_value_plain {c : Char} {t : List Char} (hf : ∀ y, f y ≠ none)
    (ht : x.ahead s = c :: (t ++ rest)) (hbar : '|' ∉ c :: t) (hrest : StartsBar rest)
    (h : c = '/' → slashedValue? (t ++ rest) = none) :
    (valueGrammar.ways s x).findSome? f = f (x.before s rest) := by
  have hplain : (CharSet.compl (.single '|')).mem = isPlain := funext mem_not_bar
  have hplace : ∀ d ∈ c :: t, isPlain d = true := fun d hd =>
    bne_iff_ne.2 fun heq => hbar (heq ▸ hd)
  have hset : (CharSet.compl (.single '|')).mem c = true := by
    rw [hplain]
    exact hplace c List.mem_cons_self
  have hdrop : (t ++ rest).dropWhile isPlain = rest := by
    refine (Text.run_append (fun d hd => hplace d (List.mem_cons_of_mem c hd)) fun d hd => ?_).2
    rw [hrest d hd]
    rfl
  have hnone : ((seq (char '/') slashedGrammar).ways s x).findSome? f = none := by
    rw [findSome?_char_cons ht]
    split
    · rename_i hslash
      rw [findSome?_slashed (x := x.forward 1) (Stand.position_lt ht) hf,
        Stand.ahead_forward_one ht, h hslash]
    · rfl
  rw [valueGrammar, findSome?_alt, hnone, Option.none_or, ways_plus_cons ht hset,
    findSome?_star_of_ne_none (hf _), past_eq_before (x := x.forward 1) (Stand.position_lt ht),
    Stand.ahead_forward_one ht, hplain, hdrop]
  rfl

theorem findSome?_value_none (h : StartsBar (x.ahead s)) :
    (valueGrammar.ways s x).findSome? f = none := by
  have hplus : (plus (chars (.compl (.single '|')))).ways s x = [] :=
    ways_plus_none fun c hc => by
      rw [h c hc]
      rfl
  rw [valueGrammar, findSome?_alt, hplus, List.findSome?_nil, Option.or_none]
  cases ht : x.ahead s with
  | nil => exact findSome?_char_nil ht
  | cons c t =>
    rw [ht] at h
    rw [findSome?_char_cons ht, h c rfl]
    rfl

/-- A value as it is read from the part of a match that stands for it. -/
def readValue (text : List Char) : List Char :=
  let value := trim text
  if value.head? = some '/' ∧ value.getLast? = some '|' then trimEnd value.dropLast else value

theorem readValue_plain {place : List Char} (h : '|' ∉ place) : readValue place = trim place := by
  rw [readValue, if_neg]
  intro hends
  exact h ((isInfix_trim place).subset (List.mem_of_getLast? hends.2))

theorem exists_slashed_piece {text inner : List Char} (h : IsSlashed text inner rest) :
    ∃ piece, '/' :: text = piece ++ rest ∧ readValue piece = '/' :: inner := by
  cases h with
  | intro body tail letters _ _ hcloses _ =>
    obtain ⟨hletters, blanks, hblanks, htail⟩ := hcloses
    have hends : EndsSolid ('/' :: (body ++ '/' :: letters)) := endsSolid_slashed hletters
    have hstarts : StartsSolid ('/' :: (body ++ '/' :: letters)) := by
      rintro c ⟨⟩
      rfl
    obtain htail | ⟨rfl, htail⟩ := htail
    · refine ⟨'/' :: (body ++ '/' :: letters) ++ blanks ++ ['|'], by simp [htail], ?_⟩
      have htrim : trim ('/' :: (body ++ '/' :: letters) ++ blanks ++ ['|']) =
          '/' :: (body ++ '/' :: letters) ++ blanks ++ ['|'] := by
        have hsame := trimEnd_append_cons (c := '|') rfl
          ('/' :: (body ++ '/' :: letters) ++ blanks) []
        rw [trim, List.append_assoc, trimStart_of_solid (hstarts.append (List.cons_ne_nil _ _) _),
          ← List.append_assoc, hsame]
        rfl
      rw [readValue, htrim, if_pos ⟨rfl, List.getLast?_concat⟩, List.dropLast_concat,
        trimEnd_append_of_blank hblanks, trimEnd_of_solid hends]
    · refine ⟨'/' :: (body ++ '/' :: letters) ++ blanks, by simp [htail], ?_⟩
      have htrim := trim_between .nil hblanks hstarts hends (List.cons_ne_nil _ _)
      rw [List.nil_append] at htrim
      rw [readValue, htrim, if_neg]
      intro hbar
      obtain hslash | hmem := getLast?_slashed hbar.2
      · cases hslash
      · cases hletters _ hmem

/-! ### Behind the separator -/

/-- The stand behind a value that starts after a number of blank characters, with its part of the
text recorded. -/
def behindValue (s rest : List Char) (x : Stand) (count : Nat) : Stand :=
  (((x.forward count).record (2 * 2)).before s rest).record (2 * 2 + 1)

theorem ways_blanks {lead tail : List Char} (h : x.ahead s = lead ++ tail) (hlead : AllBlank lead)
    (htail : StartsSolid tail) :
    (Regex.star (chars blankSet)).ways s x = (x.upTo lead.length).reverse :=
  ways_star h hlead htail

theorem findSome?_place_solid {lead tail : List Char} (hf : ∀ y, f y ≠ none)
    (h : x.ahead s = lead ++ tail) (hlead : AllBlank lead) (htail : StartsSolid tail)
    (hvalue : ∀ (y : Stand) (g : Stand → Option β), (∀ z, g z ≠ none) → y.ahead s = tail →
      (valueGrammar.ways s y).findSome? g = g (y.before s rest)) :
    (placeGrammar.ways s x).findSome? f = f (behindValue s rest x lead.length) := by
  have hgroup := hvalue ((x.forward lead.length).record (2 * 2))
    (fun z => f (z.record (2 * 2 + 1))) (fun z => hf _) (Stand.ahead_forward_length h)
  rw [placeGrammar, findSome?_seq, ways_blanks h hlead htail, findSome?_upTo_of_ne_none,
    findSome?_group, hgroup, behindValue]
  rw [findSome?_group, hgroup]
  exact hf _

theorem findSome?_place_blank {lead : List Char} {c : Char} (hf : ∀ y, f y ≠ none)
    (h : x.ahead s = (lead ++ [c]) ++ rest) (hblank : AllBlank (lead ++ [c]))
    (hrest : StartsBar rest) :
    (placeGrammar.ways s x).findSome? f = f (behindValue s rest x lead.length) := by
  have hc : isBlank c = true := hblank c (List.mem_append_right _ List.mem_cons_self)
  have hways := ways_blanks h hblank hrest.startsSolid
  rw [List.length_append, List.length_singleton] at hways
  -- behind all blank characters there is no value, so that the last of them stands for it
  have hbehind := Stand.ahead_forward_length h
  rw [List.length_append, List.length_singleton] at hbehind
  have hend : ((group 2 valueGrammar).ways s (x.forward (lead.length + 1))).findSome? f = none := by
    have hbar : StartsBar ((x.forward (lead.length + 1)).ahead s) := by rwa [hbehind]
    rw [findSome?_group]
    exact findSome?_value_none hbar
  rw [List.append_assoc] at h
  have hlast := findSome?_value_plain (x := (x.forward lead.length).record (2 * 2)) (t := [])
    (f := fun z => f (z.record (2 * 2 + 1))) (fun z => hf _) (Stand.ahead_forward_length h)
    (fun hmem => nomatch List.mem_singleton.1 hmem ▸ hc) hrest fun hslash => nomatch hslash ▸ hc
  rw [placeGrammar, findSome?_seq, hways, findSome?_upTo_reverse, hend, Option.none_or,
    findSome?_upTo_of_ne_none, findSome?_group, hlast, behindValue]
  rw [findSome?_group, hlast]
  exact hf _

theorem exists_lead {place : List Char} (h : ¬AllBlank place) :
    ∃ lead c t, place = lead ++ c :: t ∧ AllBlank lead ∧ StartsSolid (c :: t) := by
  have hne : trimStart place ≠ [] := fun hnil => h (trimStart_eq_nil_iff.1 hnil)
  obtain ⟨c, t, hct⟩ := List.exists_cons_of_ne_nil hne
  have hsplit := List.takeWhile_append_dropWhile (p := isBlank) (l := place)
  rw [← trimStart, hct] at hsplit
  exact ⟨_, c, t, hsplit.symm, fun d hd => List.mem_takeWhile_imp hd,
    hct ▸ startsSolid_trimStart place⟩

theorem findSome?_place (hf : ∀ y, f y ≠ none) (h : value? (x.ahead s) = some (value, rest)) :
    ∃ count piece, (x.forward count).ahead s = piece ++ rest ∧ readValue piece = value ∧
      (placeGrammar.ways s x).findSome? f = f (behindValue s rest x count) := by
  obtain ⟨hplace, hvalue⟩ := value?_eq_some_iff.1 h
  cases hvalue with
  | slashed lead text inner _ hs hlead hinner =>
    obtain ⟨piece, hpiece, hread⟩ := exists_slashed_piece hinner
    refine ⟨lead.length, piece, (Stand.ahead_forward_length hs).trans hpiece, hread, ?_⟩
    refine findSome?_place_solid hf hs hlead (by rintro c ⟨⟩; rfl) fun y g hg hy => ?_
    exact findSome?_value_slashed hg hy hinner.slashedValue?
  | plain place _ hs hbar hrest hnone =>
    by_cases hblank : AllBlank place
    · obtain rfl | ⟨lead, c, rfl⟩ := place.eq_nil_or_concat'
      · rw [hs, List.nil_append] at hplace
        exact absurd hplace (not_startsPlace_iff.2 hrest)
      · have hread : readValue [c] = trim (lead ++ [c]) := by
          have hc : AllBlank [c] := fun d hd => hblank d (List.mem_append_right _ hd)
          rw [readValue_plain fun hmem => hbar (List.mem_append_right _ hmem),
            trim_eq_nil_iff.2 hblank, trim_eq_nil_iff.2 hc]
        refine ⟨lead.length, [c], ?_, hread, findSome?_place_blank hf hs hblank hrest⟩
        exact Stand.ahead_forward_length (hs.trans (List.append_assoc _ _ _))
    · obtain ⟨lead, c, t, rfl, hlead, hstarts⟩ := exists_lead hblank
      have hplain : '|' ∉ c :: t := fun hmem => hbar (List.mem_append_right lead hmem)
      have hread : readValue (c :: t) = trim (lead ++ c :: t) := by
        rw [readValue_plain hplain, trim, trim, trimStart_append_of_blank hlead]
      rw [List.append_assoc] at hs
      refine ⟨lead.length, c :: t, Stand.ahead_forward_length hs, hread, ?_⟩
      refine findSome?_place_solid hf hs hlead (hstarts.append (List.cons_ne_nil c t) _) ?_
      intro y g hg hy
      refine findSome?_value_plain hg hy hplain hrest fun hslash => ?_
      subst hslash
      refine Option.eq_none_iff_forall_not_mem.2 fun parts hparts => ?_
      exact hnone _ _ hs hlead _ _ (isSlashed_of_slashedValue? hparts)

theorem findSome?_place_none (h : StartsBar (x.ahead s)) :
    (placeGrammar.ways s x).findSome? f = none := by
  have hahead : x.ahead s = [] ++ x.ahead s := rfl
  rw [placeGrammar, findSome?_seq, ways_blanks hahead .nil h.startsSolid]
  refine List.findSome?_singleton.trans ?_
  rw [findSome?_group]
  exact findSome?_value_none h

/-! ### Pairs -/

theorem findSome?_separator {r : Regex} :
    ((seq (scope (alt (char ':') (char '='))) r).ways s x).findSome? f = match x.ahead s with
      | [] => none
      | c :: _ => if c = ':' ∨ c = '=' then (r.ways s (x.forward 1)).findSome? f else none := by
  rw [findSome?_seq, ways, findSome?_alt]
  cases ht : x.ahead s with
  | nil =>
    rw [char, char, ways_chars_nil ht, ways_chars_nil ht]
    rfl
  | cons c t =>
    rw [ways_char_cons ht, ways_char_cons ht]
    by_cases hcolon : c = ':'
    · have hequals : c ≠ '=' := fun heq => absurd (hcolon.symm.trans heq) (by decide)
      rw [if_pos hcolon, if_neg hequals, List.findSome?_nil, Option.or_none]
      exact List.findSome?_singleton.trans (if_pos (Or.inl hcolon)).symm
    · rw [if_neg hcolon, List.findSome?_nil, Option.none_or]
      by_cases hequals : c = '='
      · rw [if_pos hequals]
        exact List.findSome?_singleton.trans (if_pos (Or.inr hequals)).symm
      · rw [if_neg hequals]
        exact (if_neg (not_or.2 ⟨hcolon, hequals⟩)).symm

theorem findSome?_separated :
    (separatedGrammar.ways s x).findSome? f = match trimStart (x.ahead s) with
      | [] => none
      | c :: _ =>
        if c = ':' ∨ c = '=' then
          (placeGrammar.ways s ((past blankSet s x).forward 1)).findSome? f
        else none := by
  rw [separatedGrammar, findSome?_seq, findSome?_blanks, findSome?_separator, ahead_past_blank]
  intro y c t hy hc
  rw [findSome?_separator, hy]
  exact if_neg fun hseparator => by
    obtain rfl | rfl := hseparator
    · cases hc
    · cases hc

theorem findSome?_separated_of_value (hf : ∀ y, f y ≠ none)
    (h : valueOfName? (x.ahead s) = some (value, rest)) :
    ∃ count piece, (x.forward count).ahead s = piece ++ rest ∧ readValue piece = value ∧
      (separatedGrammar.ways s x).findSome? f = f (behindValue s rest x count) := by
  have hahead := ahead_past_blank (s := s) x
  rw [findSome?_separated]
  unfold valueOfName? at h
  cases ht : trimStart (x.ahead s) with
  | nil =>
    rw [ht] at h
    cases h
  | cons c tail =>
    simp only [ht] at h hahead ⊢
    split at h
    · rename_i hseparator
      rw [if_pos hseparator]
      have htail := Stand.ahead_forward_one hahead
      rw [← htail] at h
      obtain ⟨count, piece, hpiece, hread, hways⟩ := findSome?_place hf h
      -- the blank characters before the separator, the separator, and those behind it
      have hforward : ((past blankSet s x).forward 1).forward count =
          x.forward ((runOf blankSet (x.ahead s)).length + (1 + count)) := by
        rw [past, Stand.forward_forward, Stand.forward_forward]
      rw [behindValue, hforward] at hways
      exact ⟨_, piece, hforward ▸ hpiece, hread, hways⟩
    · cases h

theorem findSome?_separated_none (h : valueOfName? (x.ahead s) = none) :
    (separatedGrammar.ways s x).findSome? f = none := by
  have hahead := ahead_past_blank (s := s) x
  rw [findSome?_separated]
  unfold valueOfName? at h
  cases ht : trimStart (x.ahead s) with
  | nil => rfl
  | cons c tail =>
    simp only [ht] at h hahead ⊢
    split at h
    · rename_i hseparator
      rw [if_pos hseparator]
      rw [← Stand.ahead_forward_one hahead] at h
      exact findSome?_place_none (startsBar_of_value? h)
    · rename_i hother
      exact if_neg hother

theorem findSome?_pair {name tail : List Char} (h : x.ahead s = name ++ tail) (hne : name ≠ [])
    (hname : ∀ c ∈ name, c.isAlpha = true) (htail : ∀ c, tail.head? = some c → c.isAlpha = false) :
    (pairGrammar.ways s x).findSome? f = (separatedGrammar.ways s
      (((x.record (2 * 1)).forward name.length).record (2 * 1 + 1))).findSome? f := by
  obtain ⟨c, more, rfl⟩ := List.exists_cons_of_ne_nil hne
  have hset : letterSet.mem c = true := (mem_letterSet c).trans (hname c List.mem_cons_self)
  have hpast : past letterSet s ((x.record (2 * 1)).forward 1) =
      (x.record (2 * 1)).forward (c :: more).length := by
    have hmem : letterSet.mem = Char.isAlpha := funext mem_letterSet
    have hmore : ((x.record (2 * 1)).forward 1).ahead s = more ++ tail := Stand.ahead_forward_one h
    have htake := (Text.run_append (fun d hd => hname d (List.mem_cons_of_mem c hd)) htail).1
    rw [past, hmore, runOf, hmem, htake, Stand.forward_forward, Nat.add_comm]
    rfl
  rw [pairGrammar, findSome?_seq, findSome?_group, ways_plus_cons (x := x.record (2 * 1)) h hset,
    findSome?_star, hpast]
  intro y d t hy hd
  have hletter : d.isAlpha = true := (mem_letterSet d).symm.trans hd
  have htrim : trimStart ((y.record (2 * 1 + 1)).ahead s) = d :: t := by
    refine Eq.trans (congrArg trimStart hy) (trimStart_of_solid ?_)
    rintro e ⟨⟩
    exact isBlank_of_isAlpha hletter
  rw [findSome?_separated, htrim]
  refine if_neg fun hseparator => ?_
  rw [isAlpha_separator hseparator] at hletter
  cases hletter

theorem findSome?_pair_none (h : ∀ c, (x.ahead s).head? = some c → c.isAlpha = false) :
    (pairGrammar.ways s x).findSome? f = none := by
  have hnone : (plus (chars letterSet)).ways s (x.record (2 * 1)) = [] :=
    ways_plus_none fun c hc => (mem_letterSet c).trans (h c hc)
  rw [pairGrammar, findSome?_seq, findSome?_group, hnone]
  rfl

variable {start : Nat} {name : List Char}

/-- Where a pair starts, the preferred match is that pair. -/
theorem firstWay_of_startsPair (h : StartsPair (s.drop start) name value rest) :
    ∃ first piece, s.drop first = piece ++ rest ∧ readValue piece = value ∧
      pairGrammar.firstWay s start = some ⟨s.length - rest.length,
        #[some start, some (s.length - rest.length), some start, some (start + name.length),
          some first, some (s.length - rest.length)]⟩ := by
  obtain ⟨hne, hname, hvalue⟩ := startsPair_iff.1 h
  have hsplit := List.takeWhile_append_dropWhile (p := Char.isAlpha) (l := s.drop start)
  rw [hname] at hsplit
  have hahead : (pairGrammar.opening start).ahead s =
      name ++ (s.drop start).dropWhile Char.isAlpha := hsplit.symm
  have hbehind := Stand.ahead_forward_length hahead
  rw [← hbehind] at hvalue
  obtain ⟨count, piece, hpiece, hread, hways⟩ := findSome?_separated_of_value
    (x := (((pairGrammar.opening start).record (2 * 1)).forward name.length).record (2 * 1 + 1))
    (f := fun y => some (y.record 1)) nofun hvalue
  refine ⟨start + name.length + count, piece, hpiece, hread, ?_⟩
  rw [firstWay_eq, findSome?_pair hahead hne (fun c hc => List.mem_takeWhile_imp (hname ▸ hc))
    (isAlpha_dropWhile _), hways]
  rfl

theorem firstWay_eq_none (h : ∀ name value rest, ¬StartsPair (s.drop start) name value rest) :
    pairGrammar.firstWay s start = none := by
  have hahead : (pairGrammar.opening start).ahead s = s.drop start := rfl
  have hsplit := List.takeWhile_append_dropWhile (p := Char.isAlpha) (l := s.drop start)
  have hafter := isAlpha_dropWhile (s.drop start)
  rw [firstWay_eq]
  by_cases hne : (s.drop start).takeWhile Char.isAlpha = []
  · rw [hne, List.nil_append] at hsplit
    rw [hsplit] at hafter
    exact findSome?_pair_none hafter
  · have hname : ∀ c ∈ (s.drop start).takeWhile Char.isAlpha, c.isAlpha = true :=
      fun c hc => List.mem_takeWhile_imp hc
    have hvalue : valueOfName? ((s.drop start).dropWhile Char.isAlpha) = none :=
      Option.eq_none_iff_forall_not_mem.2 fun parts hparts =>
        h _ _ _ (startsPair_iff.2 ⟨hne, rfl, hparts⟩)
    have hbehind := Stand.ahead_forward_length (hahead.trans hsplit.symm)
    rw [findSome?_pair (hahead.trans hsplit.symm) hne hname hafter]
    refine findSome?_separated_none ?_
    exact (congrArg valueOfName? hbehind).trans hvalue

/-! ### The matches of a text -/

/-- The name and the value that are read from the groups of a match. -/
def readMatch (s : List Char) : List (Option Span) → Option (List Char × List Char)
  | [_, some name, some value] => some (trim (name.of s), readValue (value.of s))
  | _ => none

theorem drop_length_sub {piece : List Char} {first : Nat} (h : s.drop first = piece ++ rest) :
    s.drop (s.length - rest.length) = rest := by
  have hsuffix : rest <:+ s := (List.suffix_append piece rest).trans (h ▸ List.drop_suffix first s)
  exact (List.suffix_iff_eq_drop.1 hsuffix).symm

theorem of_eq_piece {piece : List Char} {first : Nat} (h : s.drop first = piece ++ rest) :
    Span.of (first, s.length - rest.length) s = piece := by
  have hlength := congrArg List.length h
  rw [List.length_drop, List.length_append] at hlength
  have hpiece : s.length - rest.length - first = piece.length := by omega
  rw [Span.of, h, hpiece, List.take_left]

theorem trim_name {name : List Char} (hname : ∀ c ∈ name, c.isAlpha = true) : trim name = name := by
  have hsolid : ∀ c ∈ name, isBlank c = false := fun c hc => isBlank_of_isAlpha (hname c hc)
  rw [trim, trimStart_of_solid fun c hc => hsolid c (List.mem_of_head? hc)]
  exact trimEnd_of_solid fun c hc => hsolid c (List.mem_of_getLast? hc)

/-- Where a pair starts, the search finds it, and its groups read as the pair. -/
theorem searchAt_of_startsPair (hstart : start ≤ s.length)
    (h : StartsPair (s.drop start) name value rest) :
    ∃ last groups, last ≤ s.length ∧ s.drop last = rest ∧
      pairGrammar.searchAt s start = some (some (start, last) :: groups) ∧
      readMatch s (some (start, last) :: groups) = some (name, value) := by
  obtain ⟨first, piece, hpiece, hread, hway⟩ := firstWay_of_startsPair h
  have hsearch := searchAt_of_firstWay isSteady_pairGrammar hstart hway
  obtain ⟨_, hname, _⟩ := startsPair_iff.1 h
  have hletters : ∀ c ∈ name, c.isAlpha = true := fun c hc => List.mem_takeWhile_imp (hname ▸ hc)
  have hof : Span.of (start, start + name.length) s = name := by
    have htake := List.prefix_iff_eq_take.1 (hname ▸ List.takeWhile_prefix Char.isAlpha)
    rw [Span.of, Nat.add_sub_cancel_left, ← htake]
  refine ⟨s.length - rest.length, [some (start, start + name.length),
    some (first, s.length - rest.length)], Nat.sub_le _ _, drop_length_sub hpiece, hsearch, ?_⟩
  rw [readMatch, of_eq_piece hpiece, hread, hof, trim_name hletters]

theorem searchAt_skip {junk tail : List Char} (h : s.drop start = junk ++ tail)
    (hstart : start ≤ s.length) (hnone : ∀ n < junk.length, ∀ name value rest,
      ¬StartsPair (junk.drop n ++ tail) name value rest) :
    pairGrammar.searchAt s start = pairGrammar.searchAt s (start + junk.length) := by
  have hlength := congrArg List.length h
  rw [List.length_drop, List.length_append] at hlength
  refine searchAt_add isSteady_pairGrammar (by omega) fun n hn => firstWay_eq_none ?_
  rw [← List.drop_drop, h, List.drop_append_of_le_length (Nat.le_of_lt hn)]
  exact hnone n hn

theorem searchAt_nil (h : s.drop start = []) : pairGrammar.searchAt s start = none := by
  rw [searchAt_eq isSteady_pairGrammar, Option.map_eq_none_iff, List.findSome?_eq_none_iff]
  intro n hn
  have hle := (List.drop_eq_nil_iff.1 h).trans (List.mem_range'_1.1 hn).1
  refine firstWay_eq_none fun _ _ _ => ?_
  rw [List.drop_eq_nil_of_le hle]
  exact not_startsPair nofun

theorem exists_findsAll (hstart : start ≤ s.length) :
    ∃ found, FindsAll pairGrammar s start found ∧
      found.map (readMatch s) = (pairs (s.drop start)).map some := by
  generalize ht : s.drop start = t
  have hlength := congrArg List.length ht
  rw [List.length_drop] at hlength
  fun_induction pairs t generalizing start with
  | case1 => exact ⟨[], .done start (searchAt_nil ht), rfl⟩
  | case2 c left halpha afterName value next hvalue _ =>
    rename_i ih
    have hpair := startsPair_cons halpha hvalue
    rw [← ht] at hpair
    obtain ⟨last, groups, hlast, hnext, hsome, hread⟩ := searchAt_of_startsPair hstart hpair
    have hshort := congrArg List.length hnext
    have hlt : next.length < afterName.length := length_valueOfName? hvalue
    have hle : afterName.length ≤ left.length := length_dropWhile_le left
    rw [List.length_cons] at hlength
    rw [List.length_drop] at hshort
    obtain ⟨found, hfound, hmap⟩ := ih hlast hnext hshort
    refine ⟨(some (start, last) :: groups) :: found, ?_, ?_⟩
    · exact .next start start last groups found hsome (by omega) hfound
    · rw [List.map_cons, hread, hmap, List.map_cons]
  | case3 c left halpha afterName hvalue =>
    rename_i ih
    have hsplit : s.drop start = (c :: left.takeWhile Char.isAlpha) ++ afterName := by
      rw [ht, List.cons_append, List.takeWhile_append_dropWhile]
    -- within a run of letters that is no name no match starts either
    have hafter := isAlpha_dropWhile left
    have hskip := searchAt_skip hsplit hstart fun n _ _ _ _ => not_startsPair_run
      (fun d hd => isAlpha_run halpha left d (List.mem_of_mem_drop hd)) hafter hvalue
    have hnext : s.drop (start + (c :: left.takeWhile Char.isAlpha).length) = afterName := by
      rw [← List.drop_drop, hsplit, List.drop_left]
    have hrun := congrArg List.length hsplit
    have hshort := congrArg List.length hnext
    rw [List.length_drop, List.length_append] at hrun
    rw [List.length_drop] at hshort
    obtain ⟨found, hfound, hmap⟩ := ih (by omega) hnext hshort
    exact ⟨found, hfound.of_searchAt hskip, hmap⟩
  | case4 c left halpha =>
    rename_i ih
    have hsplit : s.drop start = [c] ++ left := ht
    have hskip := searchAt_skip hsplit hstart fun n hn _ _ _ => by
      rw [Nat.lt_one_iff.1 hn]
      exact not_startsPair fun d hd => Option.some.inj hd ▸ Bool.eq_false_iff.2 halpha
    have hnext : s.drop (start + 1) = left := by
      rw [← List.drop_drop, ht]
      rfl
    rw [List.length_cons] at hlength
    have hle : start + 1 ≤ s.length := by omega
    obtain ⟨found, hfound, hmap⟩ := ih hle hnext (by omega)
    exact ⟨found, hfound.of_searchAt hskip, hmap⟩

end RuleText

open RuleText

/-- The map of a rule text holds what a scan of the trimmed text finds, the last value of each name;
the matches of the pattern read as the same pairs, and only a value in slashes has bars. -/
theorem ofText_scans (ruleText : String) :
    ∃ ps : List (List Char × List Char),
      (∀ qs, Scans (trim ruleText.toList) qs ↔ qs = ps) ∧
      (∃ r found, Pattern.regexOf? {} pairPattern.toList = some r ∧
        r.FindsAll (trim ruleText.toList) 0 found ∧
        found.map (readMatch (trim ruleText.toList)) = ps.map some) ∧
      (∀ name, (RulePairs.ofText ruleText).get? name =
        (ps.reverse.find? fun p => String.ofList p.1 == name).map fun p => String.ofList p.2) ∧
      ∀ p ∈ ps, '|' ∈ p.2 → IsDelimited p.2 := by
  obtain ⟨found, hfound, hread⟩ := exists_findsAll (Nat.zero_le (trim ruleText.toList).length)
  rw [List.drop_zero] at hread
  refine ⟨pairs (trim ruleText.toList), fun qs => scans_iff,
    ⟨pairGrammar, found, regexOf?_pairPattern, hfound, hread⟩, fun name => ?_,
    (scans_pairs _).isDelimited⟩
  rw [RulePairs.ofText, NameMap.get?_ofList, ← List.map_reverse, List.find?_map, Option.map_map]
  rfl

example : pairs "a:/x|b= |c".toList = [("a".toList, "/x".toList), ("b".toList, [])] := by
  decide +kernel

end FormRules
