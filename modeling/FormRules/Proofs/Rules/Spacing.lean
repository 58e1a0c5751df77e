import FormRules.Proofs.Rules.Bounds

/-!
# Blank characters around names, separators and values

Blank characters in a rule text change nothing, except in the place of an empty value.  A pair with
an empty value is read if there is a blank character between its separator and the next bar, and
passed over if the bar follows at once; the last pair of a text is then always passed over, because
the text is trimmed first.  `ofText_congr` finds that this is the only exception.

In `RULE_PAIR_REGEX` the blank characters behind the separator can be given back to the value, which
has to have a character.
-/

namespace FormRules

open FormRules.Text

namespace RuleText

/-! ### The place of a value -/

section Place

variable {name gap place rest s : List Char} {separator : Char}

/-- What stands between the separator of a pair and the next bar, if no slash comes first. -/
structure IsPlace (place : List Char) : Prop where
  noBar : '|' ∉ place
  noSlash : (trimStart place).head? ≠ some '/'

theorem trimStart_append_ne_slash (h : IsPlace place) (hrest : StartsBar rest) :
    (trimStart (place ++ rest)).head? ≠ some '/' := by
  have hnone := h.noSlash
  rw [trimStart, List.dropWhile_append]
  split
  · intro hslash
    rw [← trimStart, trimStart_of_startsBar hrest] at hslash
    cases hrest '/' hslash
  · rename_i hsome
    rw [List.head?_append_of_ne_nil _ fun hnil => hsome (by rw [hnil]; rfl)]
    exact hnone

theorem value?_of_not_slash (h : (trimStart s).head? ≠ some '/') : value? s = plainValue? s := by
  unfold value?
  split
  · rfl
  · rename_i c rest hs
    have hc : c ≠ '/' := fun heq => h (by rw [hs, heq]; rfl)
    rw [if_neg hc]

/-- A place without characters has no value. -/
theorem value?_place (h : IsPlace place) (hrest : StartsBar rest) :
    value? (place ++ rest) = if place = [] then none else some (trim place, rest) := by
  have hplain : ∀ c ∈ place, isPlain c = true := fun c hc =>
    bne_iff_ne.2 fun heq => h.noBar (heq ▸ hc)
  obtain ⟨htake, hdrop⟩ := run_append hplain fun c hc => by
    rw [hrest c hc]
    rfl
  rw [value?_of_not_slash (trimStart_append_ne_slash h hrest), plainValue?, htake, hdrop]
  cases place with
  | nil => rfl
  | cons c place => rfl

/-! ### One pair -/

/-- A pair is read where there is a character in the place of its value. -/
theorem pairs_place {before : List Char} (hbefore : AllBlank before) (hne : name ≠ [])
    (hname : ∀ c ∈ name, c.isAlpha = true) (hgap : AllBlank gap)
    (hseparator : separator = ':' ∨ separator = '=') (hplace : IsPlace place)
    (hrest : StartsBar rest) :
    pairs (before ++ name ++ gap ++ separator :: (place ++ rest)) =
      if place = [] then pairs rest else (name, trim place) :: pairs rest := by
  have hbehind := isAlpha_behind hgap hseparator (place ++ rest)
  have hvalue : valueOfName? (gap ++ separator :: (place ++ rest)) =
      if place = [] then none else some (trim place, rest) := by
    rw [valueOfName?_separated hgap hseparator, value?_place hplace hrest]
  rw [List.append_assoc, List.append_assoc, pairs_blank hbefore]
  by_cases hnone : place = []
  · subst hnone
    rw [if_pos rfl] at hvalue ⊢
    rw [pairs_name_none hname hbehind hvalue, pairs_blank hgap,
      pairs_skip (isAlpha_separator hseparator), List.nil_append]
  · rw [if_neg hnone] at hvalue ⊢
    exact pairs_name hne hname hbehind hvalue

end Place

/-! ### Entries -/

/-- A name with a separator and a value that may be empty, and the blank characters around them. -/
structure WrittenEntry where
  before : List Char
  name : List Char
  gap : List Char
  separator : Char
  lead : List Char
  value : List Char
  after : List Char
  blank_before : AllBlank before
  blank_gap : AllBlank gap
  blank_lead : AllBlank lead
  blank_after : AllBlank after
  name_ne_nil : name ≠ []
  isAlpha_name : ∀ c ∈ name, c.isAlpha = true
  isSeparator : separator = ':' ∨ separator = '='
  isPlace_value : IsPlace value

namespace WrittenEntry

variable (w : WrittenEntry)

/-- What the entry says, however it is spaced. -/
def entry : List Char × List Char := (w.name, w.value)

/-- What is read of the entry. -/
def pair : List Char × List Char := (w.name, trim w.value)

def place : List Char := w.lead ++ w.value ++ w.after

/-- Whether nothing at all stands in the place of the value. -/
def isVacant : Bool := w.place.isEmpty

def text : List Char := w.before ++ w.name ++ w.gap ++ w.separator :: w.place

theorem isPlace_place : IsPlace w.place where
  noBar hmem := by
    have hblank {s : List Char} (h : AllBlank s) : '|' ∉ s := fun hmem => Bool.false_ne_true (h _ hmem)
    rcases List.mem_append.1 hmem with hmem | hmem
    · rcases List.mem_append.1 hmem with hmem | hmem
      · exact hblank w.blank_lead hmem
      · exact w.isPlace_value.noBar hmem
    · exact hblank w.blank_after hmem
  noSlash := by
    rw [place, List.append_assoc, trimStart_append_of_blank w.blank_lead, trimStart,
      List.dropWhile_append]
    split
    · rw [← trimStart, ← List.append_nil w.after, trimStart_append_of_blank w.blank_after]
      exact (Option.some_ne_none _).symm
    · rename_i hsome
      rw [List.head?_append_of_ne_nil _ fun hnil => hsome (by rw [hnil]; rfl)]
      exact w.isPlace_value.noSlash

theorem trim_place : trim w.place = trim w.value := by
  rw [place, List.append_assoc, trim, trimStart_append_of_blank w.blank_lead, ← trim,
    trim_append_of_blank w.blank_after]

theorem isSeparator_colon : ':' = ':' ∨ ':' = '=' := Or.inl rfl

/-- An entry with a colon and, behind it, a number of spaces. -/
def ofSpaces (name value : List Char) (hne : name ≠ [])
    (hname : ∀ c ∈ name, c.isAlpha = true) (hvalue : IsPlace value) (spaces : Nat) :
    WrittenEntry where
  before := []
  name := name
  gap := []
  separator := ':'
  lead := List.replicate spaces ' '
  value := value
  after := []
  blank_before := .nil
  blank_gap := .nil
  blank_lead := fun c hc => by
    rw [List.eq_of_mem_replicate hc]
    rfl
  blank_after := .nil
  name_ne_nil := hne
  isAlpha_name := hname
  isSeparator := isSeparator_colon
  isPlace_value := hvalue

end WrittenEntry

/-- The text of entries with bars between them. -/
def listing (ws : List WrittenEntry) : List Char := ['|'].intercalate (ws.map WrittenEntry.text)

/-- The pairs that are read of a listing. -/
def readPairs : List WrittenEntry → List (List Char × List Char)
  | [] => []
  | [w] => if trim w.value = [] then [] else [w.pair]
  | w :: next :: ws =>
    if w.isVacant then readPairs (next :: ws) else w.pair :: readPairs (next :: ws)

theorem pairs_text_append_bar (w : WrittenEntry) (s : List Char) :
    pairs (w.text ++ '|' :: s) = if w.isVacant then pairs s else w.pair :: pairs s := by
  have hbar : StartsBar ('|' :: s) := by
    intro c hc
    exact (Option.some.inj hc).symm
  have hread := pairs_place w.blank_before w.name_ne_nil w.isAlpha_name w.blank_gap w.isSeparator
    w.isPlace_place hbar
  rw [pairs_skip rfl, w.trim_place] at hread
  rw [WrittenEntry.text, List.append_assoc _ _ ('|' :: s), List.cons_append, hread]
  simp only [WrittenEntry.isVacant, List.isEmpty_iff, WrittenEntry.pair]

theorem pairs_trimEnd_text (w : WrittenEntry) : pairs (trimEnd w.text) = readPairs [w] := by
  have hsolid : isBlank w.separator = false := by
    obtain h | h := w.isSeparator
    · rw [h]
      rfl
    · rw [h]
      rfl
  have hnone : StartsBar [] := fun c hc => nomatch hc
  have hplace : IsPlace (trimEnd w.place) := by
    refine ⟨fun hmem => w.isPlace_place.noBar ((trimEnd_isPrefix _).subset hmem), fun hslash => ?_⟩
    rw [trimStart_trimEnd, trim] at hslash
    obtain ⟨t, ht⟩ := trimEnd_isPrefix (trimStart w.place)
    apply w.isPlace_place.noSlash
    rw [← ht, List.head?_append, hslash, Option.some_or]
  have hread := pairs_place w.blank_before w.name_ne_nil w.isAlpha_name w.blank_gap w.isSeparator
    hplace hnone
  have hend : pairs [] = [] := by rw [pairs]
  rw [List.append_nil, hend, trim_trimEnd, w.trim_place] at hread
  rw [WrittenEntry.text, trimEnd_append_cons hsolid, hread]
  have hempty : trimEnd w.place = [] ↔ trim w.value = [] := by
    rw [← w.trim_place, trim_eq_nil_iff, trimEnd_eq_nil_iff]
  simp only [readPairs, hempty, WrittenEntry.pair]

theorem pairs_trimEnd_listing (ws : List WrittenEntry) :
    pairs (trimEnd (listing ws)) = readPairs ws := by
  induction ws with
  | nil => exact pairs.eq_1
  | cons w ws ih =>
    cases ws with
    | nil =>
      rw [listing, List.map_singleton, List.intercalate_singleton]
      exact pairs_trimEnd_text w
    | cons next ws =>
      have hlisting : listing (w :: next :: ws) = w.text ++ '|' :: listing (next :: ws) := by
        rw [listing, List.map_cons, List.map_cons, List.intercalate_cons_cons, ← List.map_cons,
          List.append_assoc, List.singleton_append, ← listing]
      rw [hlisting, trimEnd_append_cons rfl, pairs_text_append_bar, ih, readPairs]

theorem pairs_trimStart (s : List Char) : pairs (trimStart s) = pairs s := by
  have hblank : AllBlank (s.takeWhile isBlank) := fun c hc => List.mem_takeWhile_imp hc
  have hskip := pairs_blank (s := trimStart s) hblank
  rw [trimStart, List.takeWhile_append_dropWhile] at hskip
  exact hskip.symm

theorem pairs_trim_listing (ws : List WrittenEntry) : pairs (trim (listing ws)) = readPairs ws := by
  rw [← trimStart_trimEnd, pairs_trimStart, pairs_trimEnd_listing]

/-! ### Two listings of the same entries -/

/-- Which places are vacant, the last one left out. -/
def vacancies (ws : List WrittenEntry) : List Bool := ws.dropLast.map WrittenEntry.isVacant

theorem pair_eq_of_entry_eq {w w' : WrittenEntry} (h : w.entry = w'.entry) : w.pair = w'.pair :=
  congrArg (fun entry => (entry.1, trim entry.2)) h

theorem readPairs_sublist (ws : List WrittenEntry) :
    (readPairs ws).Sublist (ws.map WrittenEntry.pair) := by
  induction ws with
  | nil => exact List.Sublist.refl _
  | cons w ws ih =>
    cases ws with
    | nil =>
      rw [readPairs]
      split
      · exact List.nil_sublist _
      · exact List.Sublist.refl _
    | cons next ws =>
      rw [readPairs, List.map_cons]
      split
      · exact ih.cons _
      · exact ih.cons_cons _

theorem readPairs_congr {a b : List WrittenEntry}
    (hentries : a.map WrittenEntry.entry = b.map WrittenEntry.entry)
    (hvacant : vacancies a = vacancies b) : readPairs a = readPairs b := by
  induction a generalizing b with
  | nil =>
    rw [List.map_nil, eq_comm, List.map_eq_nil_iff] at hentries
    rw [hentries]
  | cons w a ih =>
    obtain ⟨w', b, rfl, hw, htail⟩ := List.map_eq_cons_iff.1 hentries.symm
    have hpair := pair_eq_of_entry_eq hw
    cases a with
    | nil =>
      rw [List.map_nil, List.map_eq_nil_iff] at htail
      have hvalue : w'.value = w.value := congrArg Prod.snd hw
      rw [htail, readPairs, readPairs, hpair, hvalue]
    | cons next a =>
      obtain ⟨next', b, rfl, hnext, hrest⟩ := List.map_eq_cons_iff.1 htail
      simp only [vacancies, List.dropLast_cons_cons, List.map_cons, List.cons.injEq] at hvacant
      obtain ⟨hhead, hlater⟩ := hvacant
      rw [readPairs, readPairs, hhead, hpair, ih htail.symm hlater]

/-- If no name is repeated, the pairs that are read tell which places are vacant. -/
theorem vacancies_congr {a b : List WrittenEntry}
    (hentries : a.map WrittenEntry.entry = b.map WrittenEntry.entry)
    (hnames : (a.map WrittenEntry.name).Nodup)
    (hpairs : ∀ pair, pair ∈ readPairs a ↔ pair ∈ readPairs b) : vacancies a = vacancies b := by
  induction a generalizing b with
  | nil =>
    rw [List.map_nil, eq_comm, List.map_eq_nil_iff] at hentries
    rw [hentries]
  | cons w a ih =>
    obtain ⟨w', b, rfl, hw, htail⟩ := List.map_eq_cons_iff.1 hentries.symm
    cases a with
    | nil =>
      rw [List.map_nil, List.map_eq_nil_iff] at htail
      rw [htail]
      rfl
    | cons next a =>
      obtain ⟨next', b, rfl, hnext, hrest⟩ := List.map_eq_cons_iff.1 htail
      have hpair : w'.pair = w.pair := pair_eq_of_entry_eq hw
      rw [List.map_cons, List.nodup_cons] at hnames
      -- the pair of the first entry is read there or nowhere
      have habsent {ws : List WrittenEntry}
          (hws : ws.map WrittenEntry.entry = (next :: a).map WrittenEntry.entry) :
          w.pair ∉ readPairs ws := by
        intro hmem
        have hname := congrArg (List.map Prod.fst) hws
        rw [List.map_map, List.map_map] at hname
        have hfst := List.mem_map_of_mem (f := Prod.fst) ((readPairs_sublist ws).subset hmem)
        rw [List.map_map] at hfst
        exact hnames.1 (hname ▸ hfst)
      have hhead : w.isVacant = w'.isVacant := by
        have hiff := hpairs w.pair
        rw [readPairs, readPairs, hpair] at hiff
        have hnone := habsent rfl
        have hnone' := habsent htail
        cases hv : w.isVacant <;> cases hv' : w'.isVacant <;> simp_all
      have htailPairs : ∀ pair, pair ∈ readPairs (next :: a) ↔ pair ∈ readPairs (next' :: b) := by
        intro pair
        by_cases heq : pair = w.pair
        · rw [heq]
          exact iff_of_false (habsent rfl) (habsent htail)
        · have hiff := hpairs pair
          rw [readPairs, readPairs, ← hhead, hpair] at hiff
          split at hiff
          · exact hiff
          · rwa [List.mem_cons, List.mem_cons, or_iff_right heq, or_iff_right heq] at hiff
      simp only [vacancies, List.dropLast_cons_cons, List.map_cons]
      rw [hhead]
      exact congrArg (_ :: ·) (ih htail.symm hnames.2 htailPairs)

/-- The text of a list of entries. -/
def listingText (ws : List WrittenEntry) : String := String.ofList (listing ws)

theorem ofText_listing (ws : List WrittenEntry) :
    RulePairs.ofText (listingText ws) = NameMap.ofList ((readPairs ws).map fun (name, value) =>
      (String.ofList name, String.ofList value)) := by
  rw [RulePairs.ofText, listingText, String.toList_ofList, pairs_trim_listing]

theorem nodup_readPairs {ws : List WrittenEntry} (h : (ws.map WrittenEntry.name).Nodup) :
    (((readPairs ws).map fun (name, value) => (String.ofList name, String.ofList value)).map
      Prod.fst).Nodup := by
  have hsub := (readPairs_sublist ws).map fun pair => String.ofList pair.1
  rw [List.map_map] at hsub
  have hnames := (List.nodup_map_iff fun _ _ => String.ofList_injective).2 h
  rw [List.map_map] at hnames ⊢
  exact hnames.sublist hsub

theorem mem_readPairs_iff {ws : List WrittenEntry} (h : (ws.map WrittenEntry.name).Nodup)
    (pair : List Char × List Char) : pair ∈ readPairs ws ↔
      (RulePairs.ofText (listingText ws)).get? (String.ofList pair.1) =
        some (String.ofList pair.2) := by
  rw [ofText_listing, NameMap.get?_ofList_of_nodup (nodup_readPairs h)]
  refine ⟨fun hmem => List.mem_map.2 ⟨pair, hmem, rfl⟩, fun hmem => ?_⟩
  obtain ⟨other, hother, heq⟩ := List.mem_map.1 hmem
  obtain ⟨hname, hvalue⟩ := Prod.mk.inj heq
  rwa [Prod.ext (String.ofList_injective hname) (String.ofList_injective hvalue)] at hother

end RuleText

open RuleText

/-- Blank characters decide only whether a pair with an empty value is read, and that only before
the last pair. -/
theorem ofText_congr {a b : List WrittenEntry}
    (hentries : a.map WrittenEntry.entry = b.map WrittenEntry.entry) :
    (vacancies a = vacancies b →
      RulePairs.ofText (listingText a) = RulePairs.ofText (listingText b) ∧
      Rules.ofText (listingText a) = Rules.ofText (listingText b)) ∧
    ((a.map WrittenEntry.name).Nodup →
      RulePairs.ofText (listingText a) = RulePairs.ofText (listingText b) →
        vacancies a = vacancies b) := by
  refine ⟨fun hvacant => ?_, fun hnames hmaps => ?_⟩
  · have hmaps : RulePairs.ofText (listingText a) = RulePairs.ofText (listingText b) := by
      rw [ofText_listing, ofText_listing, readPairs_congr hentries hvacant]
    exact ⟨hmaps, congrArg Rules.ofMap hmaps⟩
  · have hsame : a.map WrittenEntry.name = b.map WrittenEntry.name := by
      have hfst := congrArg (List.map Prod.fst) hentries
      rwa [List.map_map, List.map_map] at hfst
    refine vacancies_congr hentries hnames fun pair => ?_
    rw [mem_readPairs_iff hnames, mem_readPairs_iff (hsame ▸ hnames), hmaps]

/-- An empty `format` and a type, with spaces before the values. -/
def emptyFormat (formatSpaces typeSpaces : Nat) : List WrittenEntry :=
  [.ofSpaces "format".toList [] (by decide) (by simp) ⟨by decide, by decide⟩ formatSpaces,
    .ofSpaces "type".toList "date".toList (by decide) (by simp) ⟨by simp, by decide⟩ typeSpaces]

theorem ofText_congr_emptyFormat :
    (emptyFormat 1 0).map WrittenEntry.entry = (emptyFormat 2 1).map WrittenEntry.entry ∧
    RulePairs.ofText (listingText (emptyFormat 1 0)) =
      RulePairs.ofText (listingText (emptyFormat 2 1)) ∧
    RulePairs.ofText (listingText (emptyFormat 0 0)) ≠
      RulePairs.ofText (listingText (emptyFormat 1 0)) := by
  have hentries (m n k l : Nat) :
      (emptyFormat m n).map WrittenEntry.entry = (emptyFormat k l).map WrittenEntry.entry := rfl
  refine ⟨hentries 1 0 2 1, ((ofText_congr (hentries 1 0 2 1)).1 rfl).1, fun heq => ?_⟩
  exact absurd ((ofText_congr (hentries 0 0 1 0)).2 (by decide) heq) (by decide)

/-- A blank character in the place of an empty value makes a difference. -/
theorem exists_ofText_ne :
    ∃ a b : List WrittenEntry, a.map WrittenEntry.entry = b.map WrittenEntry.entry ∧
      listingText a = "format:|type:date" ∧ listingText b = "format: |type:date" ∧
      RulePairs.ofText (listingText a) ≠ RulePairs.ofText (listingText b) ∧
      Rules.ofText (listingText a) ≠ Rules.ofText (listingText b) := by
  refine ⟨emptyFormat 0 0, emptyFormat 1 0, rfl, rfl, rfl, fun heq => ?_, fun heq => ?_⟩
  · have hread : (RulePairs.ofText "format: |type:date").get? "format" = some "" := by
      decide +kernel
    have hnone : (RulePairs.ofText "format:|type:date").get? "format" = none := by decide +kernel
    have hsame := congrArg (NameMap.get? · "format") heq
    exact Option.some_ne_none "" (hread.symm.trans (hsame.symm.trans hnone))
  · have hread : (Rules.ofText "format: |type:date").format = some "" := by decide +kernel
    have hnone : (Rules.ofText "format:|type:date").format = none := by decide +kernel
    have hsame := congrArg Rules.format heq
    exact Option.some_ne_none "" (hread.symm.trans (hsame.symm.trans hnone))

end FormRules
