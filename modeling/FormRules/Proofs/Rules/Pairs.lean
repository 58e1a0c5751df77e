import FormRules.Proofs.Text.Blank
import FormRules.Rules.Pairs

/-!
# Pairs are read as they are written

A rule text that lists pairs with bars between them gives each name its last value, whatever
blank characters stand around names, separators and values, and whatever bars stand in values in
slashes.  `pairs_text_append` reads one pair, and `pairs_intercalate` goes along the list.
-/

namespace FormRules

open FormRules.Text

namespace RuleText

variable {s rest : List Char} {c : Char}

/-! ### Written pairs -/

/-- A text that a bar ends and that trimming leaves as it is. -/
structure IsBareText (value : List Char) : Prop where
  ne_nil : value ≠ []
  noBar : '|' ∉ value
  starts : StartsSolid value
  ends : EndsSolid value

/-- A value that does not start with a slash. -/
structure IsPlainValue (value : List Char) : Prop extends IsBareText value where
  noSlash : value.head? ≠ some '/'

/-- A value in slashes with letters behind. -/
def IsSlashedValue (value : List Char) : Prop :=
  ∃ body letters, value = '/' :: (body ++ '/' :: letters) ∧ '/' ∉ body ∧ '\n' ∉ body ∧
    ∀ c ∈ letters, c.isAlpha = true

/-- A name with a separator and a value, and the blank characters around them. -/
structure WrittenPair where
  before : List Char
  name : List Char
  gap : List Char
  separator : Char
  lead : List Char
  value : List Char
  after : List Char
  blank_before : AllBlank before
  blank_gap : AllBlank gap
  blank_lead : AllBlank lead
  blank_after : AllBlank after
  name_ne_nil : name ≠ []
  isAlpha_name : ∀ c ∈ name, c.isAlpha = true
  isSeparator : separator = ':' ∨ separator = '='
  isValue : IsPlainValue value ∨ IsSlashedValue value

/-- The text of a pair. -/
def WrittenPair.text (p : WrittenPair) : List Char :=
  p.before ++ p.name ++ p.gap ++ p.separator :: (p.lead ++ p.value ++ p.after)

/-! ### Values -/

/-- A text that a value can stand before: nothing, or a bar first. -/
def StartsBar (rest : List Char) : Prop := ∀ c, rest.head? = some c → c = '|'

theorem StartsBar.startsSolid (h : StartsBar rest) : StartsSolid rest := by
  intro c hc
  rw [h c hc]
  rfl

theorem trimStart_of_startsBar (h : StartsBar rest) : trimStart rest = rest :=
  trimStart_of_solid h.startsSolid

theorem plainValue?_written {lead value after : List Char} (h : IsBareText value)
    (hlead : AllBlank lead) (hafter : AllBlank after) (hrest : StartsBar rest) :
    plainValue? (lead ++ value ++ after ++ rest) = some (value, rest) := by
  have hblank : ∀ c, isBlank c = true → isPlain c = true := fun c hc =>
    bne_iff_ne.2 fun heq => by
      rw [heq] at hc
      cases hc
  have hall : ∀ c ∈ lead ++ value ++ after, isPlain c = true := by
    intro c hc
    rcases List.mem_append.1 hc with hc | hc
    · rcases List.mem_append.1 hc with hc | hc
      · exact hblank c (hlead c hc)
      · exact bne_iff_ne.2 fun heq => h.noBar (heq ▸ hc)
    · exact hblank c (hafter c hc)
  obtain ⟨htake, hdrop⟩ := run_append (p := isPlain) hall fun c hc => by
    rw [hrest c hc]
    rfl
  have htrim := trim_between hlead hafter h.starts h.ends h.ne_nil
  unfold plainValue?
  rw [htake, hdrop]
  split
  · rename_i hnil
    simp only [List.append_eq_nil_iff] at hnil
    exact absurd hnil.1.2 h.ne_nil
  · rename_i heq
    rw [← heq, htrim]

theorem closing?_written {letters after : List Char} (hletters : ∀ c ∈ letters, c.isAlpha = true)
    (hafter : AllBlank after) (hrest : StartsBar rest) :
    closing? (letters ++ (after ++ rest)) = some (letters, rest.tail) := by
  have hstop : ∀ c, (after ++ rest).head? = some c → c.isAlpha = false := by
    intro c hc
    cases after with
    | nil =>
      rw [hrest c hc]
      rfl
    | cons d after =>
      rw [← Option.some.inj hc]
      exact isAlpha_of_isBlank (hafter d List.mem_cons_self)
  obtain ⟨htake, hdrop⟩ := run_append hletters hstop
  simp only [closing?, htake, hdrop, trimStart_append_of_blank hafter, trimStart_of_startsBar hrest]
  cases rest with
  | nil => rfl
  | cons c rest =>
    obtain rfl := hrest c rfl
    rfl

theorem slashedValue?_written {body letters after : List Char} (hslash : '/' ∉ body)
    (hline : '\n' ∉ body) (hletters : ∀ c ∈ letters, c.isAlpha = true) (hafter : AllBlank after)
    (hrest : StartsBar rest) :
    slashedValue? (body ++ '/' :: (letters ++ (after ++ rest))) =
      some (body ++ '/' :: letters, rest.tail) := by
  induction body with
  | nil =>
    rw [List.nil_append, slashedValue?, if_pos rfl, closing?_written hletters hafter hrest]
    rfl
  | cons c body ih =>
    rw [List.mem_cons, not_or] at hslash hline
    rw [List.cons_append, slashedValue?, if_neg (Ne.symm hslash.1)]
    simp only [if_neg (Ne.symm hline.1), ih hslash.2 hline.2]
    rfl

/-! ### One pair -/

theorem isAlpha_separator {separator : Char} (h : separator = ':' ∨ separator = '=') :
    separator.isAlpha = false := by
  obtain h | h := h
  · rw [h]
    rfl
  · rw [h]
    rfl

theorem isAlpha_behind {gap : List Char} {separator : Char} (hgap : AllBlank gap)
    (hseparator : separator = ':' ∨ separator = '=') (s : List Char) :
    ∀ c, (gap ++ separator :: s).head? = some c → c.isAlpha = false := by
  intro c hc
  cases gap with
  | nil =>
    rw [← Option.some.inj hc]
    exact isAlpha_separator hseparator
  | cons d gap =>
    rw [← Option.some.inj hc]
    exact isAlpha_of_isBlank (hgap d List.mem_cons_self)

theorem pairs_skip (hc : c.isAlpha = false) : pairs (c :: s) = pairs s := by
  rw [pairs, if_neg (by rw [hc]; exact Bool.false_ne_true)]

theorem pairs_blank {blanks : List Char} (h : AllBlank blanks) :
    pairs (blanks ++ s) = pairs s := by
  induction blanks with
  | nil => rfl
  | cons c blanks ih =>
    rw [List.cons_append, pairs_skip (isAlpha_of_isBlank (h c List.mem_cons_self))]
    exact ih fun d hd => h d (List.mem_cons_of_mem _ hd)

theorem pairs_name {name afterName value next : List Char} (hne : name ≠ [])
    (hname : ∀ c ∈ name, c.isAlpha = true)
    (hafter : ∀ c, afterName.head? = some c → c.isAlpha = false)
    (hvalue : valueOfName? afterName = some (value, next)) :
    pairs (name ++ afterName) = (name, value) :: pairs next := by
  cases name with
  | nil => exact absurd rfl hne
  | cons c name =>
    obtain ⟨htake, hdrop⟩ := run_append (fun d hd => hname d (List.mem_cons_of_mem _ hd)) hafter
    rw [List.cons_append, pairs, if_pos (hname c List.mem_cons_self)]
    simp only [hdrop, htake]
    split
    · rename_i heq
      rw [hdrop, hvalue] at heq
      cases heq
      rfl
    · rename_i heq
      rw [hdrop, hvalue] at heq
      cases heq

theorem pairs_name_none {name afterName : List Char} (hname : ∀ c ∈ name, c.isAlpha = true)
    (hafter : ∀ c, afterName.head? = some c → c.isAlpha = false)
    (hvalue : valueOfName? afterName = none) : pairs (name ++ afterName) = pairs afterName := by
  cases name with
  | nil => rfl
  | cons c name =>
    obtain ⟨htake, hdrop⟩ := run_append (fun d hd => hname d (List.mem_cons_of_mem _ hd)) hafter
    rw [List.cons_append, pairs, if_pos (hname c List.mem_cons_self)]
    simp only [hdrop]
    split
    · rename_i heq
      rw [hdrop, hvalue] at heq
      cases heq
    · rfl

theorem pairs_startsBar (h : StartsBar rest) : pairs rest.tail = pairs rest := by
  cases rest with
  | nil => rfl
  | cons c rest =>
    obtain rfl := h c rfl
    exact (pairs_skip rfl).symm

theorem valueOfName?_separated {gap : List Char} {separator : Char} (hgap : AllBlank gap)
    (h : separator = ':' ∨ separator = '=') (s : List Char) :
    valueOfName? (gap ++ separator :: s) = value? s := by
  have hsolid : StartsSolid (separator :: s) := by
    rintro c ⟨⟩
    rcases h with rfl | rfl <;> rfl
  rw [valueOfName?, trimStart_append_of_blank hgap, trimStart_of_solid hsolid]
  exact if_pos h

/-- What is left behind a value starts with the bar or comes after it. -/
theorem value?_written {lead value after : List Char}
    (h : IsPlainValue value ∨ IsSlashedValue value) (hlead : AllBlank lead)
    (hafter : AllBlank after) (hrest : StartsBar rest) :
    ∃ next, value? (lead ++ value ++ after ++ rest) = some (value, next) ∧
      pairs next = pairs rest := by
  -- only a value in slashes takes the bar along
  unfold value?
  rcases h with h | ⟨body, letters, rfl, hslash, hline, hletters⟩
  · have hplain := plainValue?_written h.toIsBareText hlead hafter hrest
    have hsolid : trimStart (lead ++ value ++ after ++ rest) = value ++ after ++ rest := by
      rw [List.append_assoc, List.append_assoc, trimStart_append_of_blank hlead,
        trimStart_of_solid (h.starts.append h.ne_nil _), List.append_assoc]
    obtain ⟨c, value, rfl⟩ := List.exists_cons_of_ne_nil h.ne_nil
    have hc : ¬c = '/' := fun heq => h.noSlash (congrArg some heq)
    rw [hsolid]
    simp only [List.cons_append, if_neg hc]
    exact ⟨rest, hplain, rfl⟩
  · have hsolid : trimStart (lead ++ '/' :: (body ++ '/' :: letters) ++ after ++ rest) =
        '/' :: (body ++ '/' :: (letters ++ (after ++ rest))) := by
      rw [List.append_assoc, List.append_assoc, trimStart_append_of_blank hlead,
        trimStart_of_solid (by rintro c ⟨⟩; rfl), List.cons_append, List.append_assoc,
        List.cons_append]
    rw [hsolid]
    simp only [if_true, slashedValue?_written hslash hline hletters hafter hrest]
    exact ⟨rest.tail, rfl, pairs_startsBar hrest⟩

/-- A written pair is read as it is written, whatever follows behind a bar. -/
theorem pairs_text_append (p : WrittenPair) (hrest : StartsBar rest) :
    pairs (p.text ++ rest) = (p.name, p.value) :: pairs rest := by
  obtain ⟨next, hvalue, hnext⟩ := value?_written p.isValue p.blank_lead p.blank_after hrest
  have hafter := isAlpha_behind p.blank_gap p.isSeparator (p.lead ++ p.value ++ p.after ++ rest)
  have hread := pairs_name p.name_ne_nil p.isAlpha_name hafter
    (by rw [valueOfName?_separated p.blank_gap p.isSeparator, hvalue])
  rw [hnext] at hread
  rw [← hread, ← pairs_blank (s := p.name ++ _) p.blank_before, WrittenPair.text]
  simp only [List.append_assoc, List.cons_append]

/-! ### All pairs -/

theorem pairs_intercalate (ps : List WrittenPair) :
    pairs (['|'].intercalate (ps.map WrittenPair.text)) = ps.map fun p => (p.name, p.value) := by
  induction ps with
  | nil => rw [List.map_nil, List.intercalate_nil, pairs, List.map_nil]
  | cons p ps ih =>
    have hend : pairs [] = [] := by rw [pairs]
    cases ps with
    | nil =>
      have hnone : StartsBar [] := by rintro c ⟨⟩
      have hread := pairs_text_append p hnone
      rw [List.append_nil, hend] at hread
      rwa [List.map_singleton, List.intercalate_singleton]
    | cons q ps =>
      rw [List.map_cons, List.map_cons, List.intercalate_cons_cons, ← List.map_cons,
        List.append_assoc, pairs_text_append p (by rintro c ⟨⟩; rfl), List.singleton_append,
        pairs_skip rfl, ih]
      rfl

/-! ### Trimming the whole text -/

theorem getLast?_slashed {body letters : List Char} {c : Char}
    (h : ('/' :: (body ++ '/' :: letters)).getLast? = some c) : c = '/' ∨ c ∈ letters := by
  rw [← List.cons_append, List.getLast?_append, List.getLast?_cons] at h
  cases hlast : letters.getLast? with
  | none =>
    rw [hlast] at h
    exact Or.inl (Option.some.inj h).symm
  | some d =>
    rw [hlast] at h
    exact Or.inr (Option.some.inj h ▸ List.mem_of_getLast? hlast)

theorem endsSolid_slashed {body letters : List Char} (hletters : ∀ c ∈ letters, c.isAlpha = true) :
    EndsSolid ('/' :: (body ++ '/' :: letters)) := by
  intro c hc
  obtain rfl | hmem := getLast?_slashed hc
  · rfl
  · exact isBlank_of_isAlpha (hletters c hmem)

theorem isValue_solid {value : List Char} (h : IsPlainValue value ∨ IsSlashedValue value) :
    value ≠ [] ∧ EndsSolid value := by
  rcases h with h | ⟨body, letters, rfl, _, _, hletters⟩
  · exact ⟨h.ne_nil, h.ends⟩
  · exact ⟨List.cons_ne_nil _ _, endsSolid_slashed hletters⟩

/-- The pair without the blank characters before it. -/
def WrittenPair.withoutBefore (p : WrittenPair) : WrittenPair :=
  { p with before := [], blank_before := .nil }

/-- The pair without the blank characters after it. -/
def WrittenPair.withoutAfter (p : WrittenPair) : WrittenPair :=
  { p with after := [], blank_after := .nil }

theorem trimStart_text_append (p : WrittenPair) (s : List Char) :
    trimStart (p.text ++ s) = p.withoutBefore.text ++ s := by
  have hsolid : StartsSolid p.name := fun c hc =>
    isBlank_of_isAlpha (p.isAlpha_name c (List.mem_of_head? hc))
  simp only [WrittenPair.text, WrittenPair.withoutBefore, List.append_assoc, List.nil_append]
  rw [trimStart_append_of_blank p.blank_before,
    trimStart_of_solid (hsolid.append p.name_ne_nil _)]

theorem trimEnd_text (p : WrittenPair) : trimEnd p.text = p.withoutAfter.text := by
  obtain ⟨hne, hends⟩ := isValue_solid p.isValue
  simp only [WrittenPair.text, WrittenPair.withoutAfter, List.append_nil]
  have hsplit : p.before ++ p.name ++ p.gap ++ p.separator :: (p.lead ++ p.value ++ p.after) =
      (p.before ++ p.name ++ p.gap ++ p.separator :: p.lead) ++ p.value ++ p.after := by simp
  rw [hsplit, trimEnd_append_of_blank p.blank_after, trimEnd_of_solid (hends.append hne _)]
  simp

theorem trimEnd_intercalate (ps : List WrittenPair) :
    ∃ qs : List WrittenPair, trimEnd (['|'].intercalate (ps.map WrittenPair.text)) =
        ['|'].intercalate (qs.map WrittenPair.text) ∧
      qs.map (fun p => (p.name, p.value)) = ps.map fun p => (p.name, p.value) := by
  induction ps with
  | nil => exact ⟨[], rfl, rfl⟩
  | cons p ps ih =>
    cases ps with
    | nil =>
      refine ⟨[p.withoutAfter], ?_, rfl⟩
      simp only [List.map_singleton, List.intercalate_singleton, trimEnd_text]
    | cons q ps =>
      obtain ⟨qs, htrim, hentries⟩ := ih
      refine ⟨p :: qs, ?_, congrArg ((p.name, p.value) :: ·) hentries⟩
      have hne : qs.map WrittenPair.text ≠ [] := fun hnil => by
        rw [List.map_eq_nil_iff.1 hnil] at hentries
        cases hentries
      rw [List.map_cons, List.map_cons, List.intercalate_cons_cons, ← List.map_cons,
        List.append_assoc, List.singleton_append, trimEnd_append_cons rfl, htrim, List.map_cons,
        List.intercalate_cons_of_ne_nil hne, List.append_assoc, List.singleton_append]

theorem trim_intercalate (ps : List WrittenPair) :
    ∃ qs : List WrittenPair, trim (['|'].intercalate (ps.map WrittenPair.text)) =
        ['|'].intercalate (qs.map WrittenPair.text) ∧
      qs.map (fun p => (p.name, p.value)) = ps.map fun p => (p.name, p.value) := by
  have hstart : ∃ qs : List WrittenPair, trimStart (['|'].intercalate (ps.map WrittenPair.text)) =
        ['|'].intercalate (qs.map WrittenPair.text) ∧
      qs.map (fun p => (p.name, p.value)) = ps.map fun p => (p.name, p.value) := by
    rcases ps with _ | ⟨p, _ | ⟨q, ps⟩⟩
    · exact ⟨[], rfl, rfl⟩
    · refine ⟨[p.withoutBefore], ?_, rfl⟩
      have htrim := trimStart_text_append p []
      rw [List.append_nil, List.append_nil] at htrim
      simp only [List.map_singleton, List.intercalate_singleton, htrim]
    · refine ⟨p.withoutBefore :: q :: ps, ?_, rfl⟩
      simp only [List.map_cons, List.intercalate_cons_cons, List.append_assoc,
        trimStart_text_append]
  obtain ⟨qs, hqs, hentries⟩ := hstart
  obtain ⟨rs, hrs, hentries'⟩ := trimEnd_intercalate qs
  exact ⟨rs, by rw [trim, hqs, hrs], hentries'.trans hentries⟩

end RuleText

open RuleText

/-- The map of written pairs gives each name the value listed last, and nothing to other names. -/
theorem get?_ofText_written (ps : List WrittenPair) (name : String) :
    (RulePairs.ofText (String.ofList (['|'].intercalate (ps.map WrittenPair.text)))).get? name =
      (ps.reverse.find? fun p => String.ofList p.name == name).map
        fun p => String.ofList p.value := by
  obtain ⟨qs, htrim, hentries⟩ := trim_intercalate ps
  have hpairs := (pairs_intercalate qs).trans hentries
  rw [RulePairs.ofText, String.toList_ofList, htrim, hpairs, NameMap.get?_ofList, List.map_map,
    ← List.map_reverse, List.find?_map]
  simp only [Option.map_map]
  rfl

end FormRules
