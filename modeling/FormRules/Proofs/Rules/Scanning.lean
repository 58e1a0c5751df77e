import FormRules.Proofs.Rules.Delimited

/-!
# What a scan of a rule text finds

`Scans` says what the pairs of a text are without saying how they are found: the next pair starts
at the leftmost maximal run of letters behind which a separator and a value stand, and the scan goes
on behind the value.  `scans_iff` says that every text has exactly one list of such pairs, and that
`pairs` is that list.
-/

namespace FormRules

open FormRules.Text

namespace RuleText

variable {s name value rest : List Char}

/-! ### Values in slashes -/

/-- What stands behind a slash that ends a value: letters, blank characters, and a bar or the
end. -/
def Closes (s letters rest : List Char) : Prop :=
  (∀ c ∈ letters, c.isAlpha = true) ∧ ∃ blanks, AllBlank blanks ∧
    (s = letters ++ blanks ++ '|' :: rest ∨ rest = [] ∧ s = letters ++ blanks)

theorem closing?_eq_some_iff {letters : List Char} :
    closing? s = some (letters, rest) ↔ Closes s letters rest := by
  refine ⟨closing?_eq_some, fun h => ?_⟩
  obtain ⟨hletters, blanks, hblanks, hs | ⟨hrest, hs⟩⟩ := h
  · have hbar : StartsBar ('|' :: rest) := fun c hc => (Option.some.inj hc).symm
    rw [hs, List.append_assoc]
    exact closing?_written hletters hblanks hbar
  · have hnone : StartsBar [] := fun c hc => nomatch hc
    have hread := closing?_written hletters hblanks hnone
    rw [List.append_nil] at hread
    rw [hs, hrest]
    exact hread

/-- A text that runs on to a slash that ends a value, with no such slash and no line feed before
it. -/
inductive IsSlashed : List Char → List Char → List Char → Prop
  | intro (body tail letters rest : List Char) (hline : '\n' ∉ body)
    (hcloses : Closes tail letters rest)
    (hfirst : ∀ first last, body = first ++ '/' :: last →
      ∀ letters rest, ¬Closes (last ++ '/' :: tail) letters rest) :
    IsSlashed (body ++ '/' :: tail) (body ++ '/' :: letters) rest

theorem isSlashed_of_slashedValue? (h : slashedValue? s = some (value, rest)) :
    IsSlashed s value rest := by
  induction s generalizing value with
  | nil => cases h
  | cons c s ih =>
    rw [slashedValue?] at h
    split at h
    · rename_i letters left hclose
      obtain ⟨rfl, rfl⟩ := Prod.mk.inj (Option.some.inj h)
      split at hclose
      · rename_i hc
        subst hc
        refine .intro [] s letters left List.not_mem_nil (closing?_eq_some hclose) ?_
        intro first last hnil
        exact absurd (congrArg List.length hnil) (by simp)
      · cases hclose
    · rename_i hopen
      split at h
      · cases h
      · rename_i hline
        obtain ⟨⟨inner, left⟩, hread, heq⟩ := Option.map_eq_some_iff.1 h
        obtain ⟨rfl, rfl⟩ := Prod.mk.inj heq
        cases ih hread with
        | intro body tail letters _ hbody hcloses hfirst =>
          refine .intro (c :: body) tail letters left ?_ hcloses fun first last heq => ?_
          · rw [List.mem_cons, not_or]
            exact ⟨Ne.symm hline, hbody⟩
          · -- an earlier slash is the character itself or one of the rest
            cases first with
            | nil =>
              obtain ⟨rfl, rfl⟩ := List.cons.inj heq
              rw [if_pos rfl] at hopen
              intro letters' rest' hcloses'
              rw [closing?_eq_some_iff.2 hcloses'] at hopen
              cases hopen
            | cons d first =>
              exact hfirst first last (List.cons.inj heq).2

theorem IsSlashed.slashedValue? (h : IsSlashed s value rest) :
    slashedValue? s = some (value, rest) := by
  cases h with
  | intro body tail letters _ hline hcloses hfirst =>
    induction body with
    | nil =>
      rw [List.nil_append, RuleText.slashedValue?, if_pos rfl, closing?_eq_some_iff.2 hcloses]
      rfl
    | cons c body ih =>
      rw [List.mem_cons, not_or] at hline
      have hnone : (if c = '/' then closing? (body ++ '/' :: tail) else none) = none := by
        split
        · rename_i hc
          rw [Option.eq_none_iff_forall_not_mem]
          intro parts hparts
          exact hfirst [] body (by rw [hc]; rfl) parts.1 parts.2 (closing?_eq_some_iff.1 hparts)
        · rfl
      have hread := ih hline.2 fun first last heq =>
        hfirst (c :: first) last (by rw [heq]; rfl)
      rw [List.cons_append, RuleText.slashedValue?, hnone]
      simp only [if_neg (Ne.symm hline.1), hread]
      rfl

/-! ### Values -/

/-- A text that has a character in the place of a value. -/
def StartsPlace (s : List Char) : Prop := ∃ c, s.head? = some c ∧ c ≠ '|'

theorem not_startsPlace_iff : ¬StartsPlace s ↔ StartsBar s := by simp [StartsPlace, StartsBar]

/-- The value at the start of a text and the text behind it.  A value in slashes takes the bar
along that ends it, and any other value leaves it. -/
inductive IsValue (s : List Char) : List Char → List Char → Prop
  | slashed (lead text inner rest : List Char) (hs : s = lead ++ '/' :: text)
    (hlead : AllBlank lead) (hinner : IsSlashed text inner rest) : IsValue s ('/' :: inner) rest
  | plain (place rest : List Char) (hs : s = place ++ rest) (hbar : '|' ∉ place)
    (hrest : StartsBar rest)
    (hnone : ∀ lead text, s = lead ++ '/' :: text → AllBlank lead →
      ∀ inner rest, ¬IsSlashed text inner rest) :
    IsValue s (trim place) rest

theorem trimStart_eq_slash_iff {text : List Char} :
    trimStart s = '/' :: text ↔ ∃ lead, s = lead ++ '/' :: text ∧ AllBlank lead := by
  refine ⟨fun h => ⟨s.takeWhile isBlank, ?_, fun c hc => List.mem_takeWhile_imp hc⟩, fun h => ?_⟩
  · rw [← h, trimStart, List.takeWhile_append_dropWhile]
  · obtain ⟨lead, hs, hlead⟩ := h
    rw [hs, trimStart_append_of_blank hlead]
    exact trimStart_of_solid fun c hc => by
      rw [← Option.some.inj hc]
      rfl

theorem plainValue?_eq_some_iff : plainValue? s = some (value, rest) ↔
    StartsPlace s ∧ ∃ place, s = place ++ rest ∧ '|' ∉ place ∧ StartsBar rest ∧
      value = trim place := by
  constructor
  · intro h
    have hsplit := List.takeWhile_append_dropWhile (p := isPlain) (l := s)
    unfold plainValue? at h
    split at h
    · cases h
    · rename_i c place htake
      obtain ⟨rfl, rfl⟩ := Prod.mk.inj (Option.some.inj h)
      have hplain : ∀ d ∈ c :: place, d ≠ '|' := by
        intro d hd
        rw [← htake] at hd
        have hplain : isPlain d = true := List.mem_takeWhile_imp hd
        exact bne_iff_ne.1 hplain
      have hbar : StartsBar (s.dropWhile isPlain) := fun d hd => by
        have hnot := List.head?_dropWhile_not isPlain s
        rw [hd] at hnot
        simpa [isPlain] using hnot
      rw [htake] at hsplit
      exact ⟨⟨c, by rw [← hsplit]; rfl, hplain c List.mem_cons_self⟩, c :: place, hsplit.symm,
        fun hmem => hplain _ hmem rfl, hbar, rfl⟩
  · intro h
    obtain ⟨⟨c, hc, hne⟩, place, hs, hbar, hrest, hvalue⟩ := h
    have hplain : ∀ d ∈ place, isPlain d = true := fun d hd =>
      bne_iff_ne.2 fun heq => hbar (heq ▸ hd)
    obtain ⟨htake, hdrop⟩ := run_append hplain fun d hd => by
      rw [hrest d hd]
      rfl
    rw [hs, plainValue?, htake, hdrop, hvalue]
    cases place with
    | nil =>
      rw [hs, List.nil_append] at hc
      exact absurd (hrest c hc) hne
    | cons d place => rfl

theorem value?_of_isSlashed {text inner : List Char} (hs : trimStart s = '/' :: text)
    (h : IsSlashed text inner rest) : value? s = some ('/' :: inner, rest) := by
  rw [value?, hs]
  simp only [if_true, h.slashedValue?]

theorem value?_of_not_isSlashed
    (h : ∀ text, trimStart s = '/' :: text → ∀ inner rest, ¬IsSlashed text inner rest) :
    value? s = plainValue? s := by
  unfold value?
  split
  · rfl
  · rename_i c text hs
    split
    · rename_i inner rest hread
      split at hread
      · rename_i hc
        exact absurd (isSlashed_of_slashedValue? hread) (h text (hc ▸ hs) inner rest)
      · cases hread
    · rfl

theorem startsPlace_of_slash {lead text : List Char} (hlead : AllBlank lead) :
    StartsPlace (lead ++ '/' :: text) := by
  cases lead with
  | nil => exact ⟨'/', rfl, by decide⟩
  | cons c lead =>
    refine ⟨c, rfl, fun hc => ?_⟩
    have hblank := hlead c List.mem_cons_self
    rw [hc] at hblank
    cases hblank

theorem value?_eq_some_iff : value? s = some (value, rest) ↔
    StartsPlace s ∧ IsValue s value rest := by
  by_cases hslashed : ∃ text inner rest, trimStart s = '/' :: text ∧ IsSlashed text inner rest
  · obtain ⟨text, inner, left, htrim, hinner⟩ := hslashed
    obtain ⟨lead, hs, hlead⟩ := trimStart_eq_slash_iff.1 htrim
    rw [value?_of_isSlashed htrim hinner]
    constructor
    · intro h
      obtain ⟨rfl, rfl⟩ := Prod.mk.inj (Option.some.inj h)
      exact ⟨hs ▸ startsPlace_of_slash hlead, .slashed lead text inner left hs hlead hinner⟩
    · intro h
      cases h.2 with
      | slashed lead' text' inner' _ hs' hlead' hinner' =>
        have htrim' := trimStart_eq_slash_iff.2 ⟨lead', hs', hlead'⟩
        obtain rfl := (List.cons.inj (htrim.symm.trans htrim')).2
        have hread := hinner.slashedValue?.symm.trans hinner'.slashedValue?
        obtain ⟨rfl, rfl⟩ := Prod.mk.inj (Option.some.inj hread)
        rfl
      | plain place _ _ _ _ hnone => exact absurd hinner (hnone lead text hs hlead inner left)
  · have hnone : ∀ text, trimStart s = '/' :: text → ∀ inner rest, ¬IsSlashed text inner rest :=
      fun text htrim inner rest hinner => hslashed ⟨text, inner, rest, htrim, hinner⟩
    rw [value?_of_not_isSlashed hnone, plainValue?_eq_some_iff]
    refine and_congr_right fun _ => ⟨fun h => ?_, fun h => ?_⟩
    · obtain ⟨place, hs, hbar, hrest, rfl⟩ := h
      exact .plain place rest hs hbar hrest fun lead text hs hlead =>
        hnone text (trimStart_eq_slash_iff.2 ⟨lead, hs, hlead⟩)
    · cases h with
      | slashed lead text inner _ hs hlead hinner =>
        exact absurd hinner (hnone text (trimStart_eq_slash_iff.2 ⟨lead, hs, hlead⟩) inner rest)
      | plain place _ hs hbar hrest => exact ⟨place, hs, hbar, hrest, rfl⟩

theorem startsBar_of_value? (h : value? s = none) : StartsBar s := by
  have hplain : plainValue? s = none := by
    unfold value? at h
    split at h
    · exact h
    · split at h
      · cases h
      · exact h
  refine not_startsPlace_iff.1 fun hplace => ?_
  obtain ⟨c, hhead, hne⟩ := hplace
  obtain ⟨t, rfl⟩ : ∃ t, s = c :: t := List.head?_eq_some_iff.1 hhead
  have hc : isPlain c = true := bne_iff_ne.2 hne
  rw [plainValue?, List.takeWhile_cons, if_pos hc] at hplain
  cases hplain

/-! ### Pairs -/

/-- A pair at the start of a text, and the text behind it. -/
inductive StartsPair : List Char → List Char → List Char → List Char → Prop
  | intro (name gap tail value rest : List Char) (separator : Char) (hne : name ≠ [])
    (hname : ∀ c ∈ name, c.isAlpha = true) (hgap : AllBlank gap)
    (hseparator : separator = ':' ∨ separator = '=') (hplace : StartsPlace tail)
    (hvalue : IsValue tail value rest) :
    StartsPair (name ++ (gap ++ separator :: tail)) name value rest

theorem exists_separated (h : valueOfName? s = some (value, rest)) :
    ∃ gap separator tail, s = gap ++ separator :: tail ∧ AllBlank gap ∧
      (separator = ':' ∨ separator = '=') ∧ value? tail = some (value, rest) := by
  unfold valueOfName? at h
  split at h
  · cases h
  · rename_i c tail hs
    split at h
    · rename_i hc
      refine ⟨s.takeWhile isBlank, c, tail, ?_, fun d hd => List.mem_takeWhile_imp hd, hc, h⟩
      rw [← hs, trimStart, List.takeWhile_append_dropWhile]
    · cases h

theorem startsPair_iff : StartsPair s name value rest ↔ name ≠ [] ∧
    s.takeWhile Char.isAlpha = name ∧
      valueOfName? (s.dropWhile Char.isAlpha) = some (value, rest) := by
  constructor
  · intro h
    cases h with
    | intro _ gap tail _ _ separator hne hname hgap hseparator hplace hvalue =>
      obtain ⟨htake, hdrop⟩ := run_append hname (isAlpha_behind hgap hseparator tail)
      rw [htake, hdrop, valueOfName?_separated hgap hseparator]
      exact ⟨hne, rfl, value?_eq_some_iff.2 ⟨hplace, hvalue⟩⟩
  · intro h
    obtain ⟨hne, hname, hvalue⟩ := h
    obtain ⟨gap, separator, tail, hdrop, hgap, hseparator, hread⟩ := exists_separated hvalue
    obtain ⟨hplace, hvalue⟩ := value?_eq_some_iff.1 hread
    have hs := List.takeWhile_append_dropWhile (p := Char.isAlpha) (l := s)
    rw [hname, hdrop] at hs
    rw [← hs]
    exact .intro name gap tail value rest separator hne
      (fun c hc => List.mem_takeWhile_imp (hname ▸ hc)) hgap hseparator hplace hvalue

theorem startsPair_cons {c : Char} (hc : c.isAlpha = true)
    (h : valueOfName? (s.dropWhile Char.isAlpha) = some (value, rest)) :
    StartsPair (c :: s) (c :: s.takeWhile Char.isAlpha) value rest := by
  rw [startsPair_iff, List.takeWhile_cons, List.dropWhile_cons, if_pos hc, if_pos hc]
  exact ⟨List.cons_ne_nil _ _, rfl, h⟩

/-- A run of letters can start behind a text that does not end with a letter. -/
def EndsRun (before : List Char) : Prop := ∀ c, before.getLast? = some c → c.isAlpha = false

/-- No pair starts within the first of two texts. -/
def HasNoPair (before after : List Char) : Prop :=
  ∀ first later, before = first ++ later → later ≠ [] → EndsRun first →
    ∀ name value rest, ¬StartsPair (later ++ after) name value rest

/-- The pairs of a text, from left to right. -/
inductive Scans : List Char → List (List Char × List Char) → Prop
  | done (s : List Char) (hnone : HasNoPair s []) : Scans s []
  | pair (before after name value rest : List Char) (ps : List (List Char × List Char))
    (hbefore : EndsRun before) (hnone : HasNoPair before after)
    (hpair : StartsPair after name value rest) (hrest : Scans rest ps) :
    Scans (before ++ after) ((name, value) :: ps)

theorem not_startsPair (h : ∀ c, s.head? = some c → c.isAlpha = false) :
    ¬StartsPair s name value rest := by
  intro hpair
  obtain ⟨hne, hname, _⟩ := startsPair_iff.1 hpair
  cases s with
  | nil => exact hne hname.symm
  | cons c s =>
    rw [List.takeWhile_cons, h c rfl] at hname
    exact hne hname.symm

theorem EndsRun.nil : EndsRun [] := fun _ hc => absurd hc.symm (Option.some_ne_none _)

theorem EndsRun.right {a b : List Char} (h : EndsRun (a ++ b)) : EndsRun b := by
  intro c hc
  exact h c (by rw [List.getLast?_append, hc, Option.some_or])

theorem EndsRun.append {a b : List Char} (hb : EndsRun b) (ha : b = [] → EndsRun a) :
    EndsRun (a ++ b) := by
  intro c hc
  rw [List.getLast?_append] at hc
  cases hlast : b.getLast? with
  | none =>
    rw [hlast, Option.none_or] at hc
    exact ha (List.getLast?_eq_none_iff.1 hlast) c hc
  | some d =>
    rw [hlast, Option.some_or] at hc
    exact hb c (hlast.trans hc)

/-! ### What is passed over -/

theorem HasNoPair.nil (s : List Char) : HasNoPair [] s := by
  intro first later heq hlater
  exact absurd (List.append_eq_nil_iff.1 heq.symm).2 hlater

theorem HasNoPair.append {a b after : List Char} (ha : HasNoPair a (b ++ after))
    (hb : HasNoPair b after) : HasNoPair (a ++ b) after := by
  intro first later heq hlater hends name value rest
  obtain ⟨part, hfirst, hb'⟩ | ⟨part, ha', hlater'⟩ := List.append_eq_append_iff.1 heq
  · rw [hfirst] at hends
    exact hb part later hb' hlater hends.right name value rest
  · by_cases hpart : part = []
    · rw [hpart, List.nil_append] at hlater'
      subst hlater'
      exact hb [] later rfl hlater nofun name value rest
    · rw [hlater', List.append_assoc]
      exact ha first part ha' hpart hends name value rest

theorem HasNoPair.other {c : Char} (hc : c.isAlpha = false) (s : List Char) : HasNoPair [c] s := by
  intro first later heq hlater _ name value rest
  cases first with
  | nil =>
    rw [← List.nil_append later, ← heq]
    exact not_startsPair fun d hd => by rwa [← Option.some.inj hd]
  | cons d first =>
    have hnil := (List.cons.inj heq).2
    exact absurd (List.append_eq_nil_iff.1 hnil.symm).2 hlater

theorem not_startsPair_run {run after : List Char} (hrun : ∀ c ∈ run, c.isAlpha = true)
    (hafter : ∀ c, after.head? = some c → c.isAlpha = false) (hnone : valueOfName? after = none) :
    ¬StartsPair (run ++ after) name value rest := by
  intro hpair
  obtain ⟨_, _, hvalue⟩ := startsPair_iff.1 hpair
  rw [(run_append hrun hafter).2, hnone] at hvalue
  cases hvalue

theorem HasNoPair.run {run after : List Char} (hrun : ∀ c ∈ run, c.isAlpha = true)
    (hafter : ∀ c, after.head? = some c → c.isAlpha = false) (hnone : valueOfName? after = none) :
    HasNoPair run after := by
  intro first later heq _ _ name value rest
  exact not_startsPair_run (fun c hc => hrun c (heq ▸ List.mem_append_right _ hc)) hafter hnone

/-! ### The scan finds the pairs -/

theorem isAlpha_dropWhile (s : List Char) :
    ∀ c, (s.dropWhile Char.isAlpha).head? = some c → c.isAlpha = false := by
  intro c hc
  have hnot := List.head?_dropWhile_not Char.isAlpha s
  rw [hc] at hnot
  simpa using hnot

theorem isAlpha_run {c : Char} (hc : c.isAlpha = true) (s : List Char) :
    ∀ d ∈ c :: s.takeWhile Char.isAlpha, d.isAlpha = true := by
  intro d hd
  obtain rfl | hd := List.mem_cons.1 hd
  · exact hc
  · exact List.mem_takeWhile_imp hd

theorem Scans.prepend {junk : List Char} {ps : List (List Char × List Char)} (h : Scans s ps)
    (hjunk : HasNoPair junk s) (hmeet : EndsRun junk ∨ ∀ c, s.head? = some c → c.isAlpha = false) :
    Scans (junk ++ s) ps := by
  cases h with
  | done _ hnone =>
    refine .done _ (HasNoPair.append ?_ hnone)
    rwa [List.append_nil]
  | pair before after name value rest ps hbefore hnone hpair hrest =>
    rw [← List.append_assoc]
    refine .pair _ _ _ _ _ _ ?_ (hjunk.append hnone) hpair hrest
    refine hbefore.append fun hnil => hmeet.resolve_right fun hhead => ?_
    rw [hnil, List.nil_append] at hhead
    exact not_startsPair hhead hpair

theorem scans_pairs (s : List Char) : Scans s (pairs s) := by
  fun_induction pairs s with
  | case1 => exact .done _ (.nil _)
  | case2 c left halpha afterName value next hvalue _ ih =>
    exact .pair [] _ _ _ _ _ .nil (.nil _) (startsPair_cons halpha hvalue) ih
  | case3 c left halpha afterName hvalue ih =>
    have hafter := isAlpha_dropWhile left
    have hscan := ih.prepend (.run (isAlpha_run halpha left) hafter hvalue) (Or.inr hafter)
    rwa [List.cons_append, List.takeWhile_append_dropWhile] at hscan
  | case4 c left halpha ih =>
    have hc := Bool.eq_false_iff.2 halpha
    refine ih.prepend (.other hc left) (Or.inl fun d hd => ?_)
    rwa [← Option.some.inj hd]

/-! ### The scan finds nothing else -/

theorem StartsPair.unique {name' value' rest' : List Char} (h : StartsPair s name value rest)
    (h' : StartsPair s name' value' rest') : name = name' ∧ value = value' ∧ rest = rest' := by
  obtain ⟨_, hname, hvalue⟩ := startsPair_iff.1 h
  obtain ⟨_, hname', hvalue'⟩ := startsPair_iff.1 h'
  rw [hvalue] at hvalue'
  obtain ⟨hsame, hrest⟩ := Prod.mk.inj (Option.some.inj hvalue')
  exact ⟨hname.symm.trans hname', hsame, hrest⟩

theorem eq_nil_of_hasNoPair {before part after : List Char}
    (hnone : HasNoPair (before ++ part) after) (hbefore : EndsRun before)
    (hpair : StartsPair (part ++ after) name value rest) : part = [] := by
  by_contra hpart
  exact hnone before part rfl hpart hbefore _ _ _ hpair

theorem Scans.unique {ps qs : List (List Char × List Char)} (h : Scans s ps) (h' : Scans s qs) :
    ps = qs := by
  induction h generalizing qs with
  | done s hnone =>
    cases h' with
    | done => rfl
    | pair before after _ _ _ _ hbefore _ hpair =>
      rw [← List.append_nil after] at hpair
      rw [eq_nil_of_hasNoPair hnone hbefore hpair] at hpair
      exact absurd hpair (not_startsPair nofun)
  | pair before after name value rest ps hbefore hnone hpair _ ih =>
    generalize hs : before ++ after = s at h'
    cases h' with
    | done _ hnone' =>
      subst hs
      rw [← List.append_nil after] at hpair
      rw [eq_nil_of_hasNoPair hnone' hbefore hpair] at hpair
      exact absurd hpair (not_startsPair nofun)
    | pair before' after' name' value' rest' qs hbefore' hnone' hpair' hrest' =>
      have hsame : after = after' := by
        obtain ⟨part, hlong, hshort⟩ | ⟨part, hlong, hshort⟩ := List.append_eq_append_iff.1 hs
        · rw [hlong] at hnone'
          rw [hshort] at hpair
          rw [hshort, eq_nil_of_hasNoPair hnone' hbefore hpair, List.nil_append]
        · rw [hlong] at hnone
          rw [hshort] at hpair'
          rw [hshort, eq_nil_of_hasNoPair hnone hbefore' hpair', List.nil_append]
      subst hsame
      obtain ⟨rfl, rfl, rfl⟩ := hpair.unique hpair'
      rw [ih hrest']

theorem scans_iff {ps : List (List Char × List Char)} : Scans s ps ↔ ps = pairs s :=
  ⟨fun h => h.unique (scans_pairs s), fun h => h ▸ scans_pairs s⟩

/-! ### Values with bars -/

/-- A value in slashes with letters behind, on one line. -/
def IsDelimited (value : List Char) : Prop :=
  ∃ body letters, value = '/' :: (body ++ '/' :: letters) ∧ '\n' ∉ body ∧
    ∀ c ∈ letters, c.isAlpha = true

theorem IsValue.isDelimited (h : IsValue s value rest) (hbar : '|' ∈ value) :
    IsDelimited value := by
  cases h with
  | slashed lead text inner _ hs hlead hinner =>
    cases hinner with
    | intro body tail letters _ hline hcloses => exact ⟨body, letters, rfl, hline, hcloses.1⟩
  | plain place _ hs hplain => exact absurd ((isInfix_trim place).subset hbar) hplain

theorem Scans.isDelimited {ps : List (List Char × List Char)} (h : Scans s ps) :
    ∀ p ∈ ps, '|' ∈ p.2 → IsDelimited p.2 := by
  induction h with
  | done => exact List.forall_mem_nil _
  | pair before after name value rest ps _ _ hpair _ ih =>
    intro p hp hbar
    obtain rfl | hp := List.mem_cons.1 hp
    · cases hpair with
      | intro _ gap tail _ _ separator _ _ _ _ _ hvalue => exact hvalue.isDelimited hbar
    · exact ih p hp hbar

end RuleText

end FormRules
