import FormRules.Email
import FormRules.Proofs.Pattern.Language
import FormRules.Proofs.Pattern.Positions
import Mathlib.Data.String.Basic

/-!
# The parts of an email address

An address is written as atoms with dots between them, an at sign, and labels with dots between
them.  `isEmailAddress_iff` finds that the values that count as addresses are the texts of such
parts with blank characters around them.  The program limits bytes; since every part is ASCII, its
limits hold of characters.
-/

namespace FormRules

open FormRules.Text FormRules.Pattern

namespace Email

variable {s : List Char} {c : Char}

/-! ### Parts -/

def IsAtomChar (c : Char) : Prop :=
  c.isAlphanum = true ∨ c ∈ "!#$%&'*+/=?^_\x60\x7b|\x7d~-".toList

def IsLabelChar (c : Char) : Prop := c.isAlphanum = true ∨ c = '-'

def IsAtom (s : List Char) : Prop := s ≠ [] ∧ ∀ c ∈ s, IsAtomChar c

/-- Up to 63 letters, digits and hyphens, with no hyphen at either end. -/
structure IsLabel (s : List Char) : Prop where
  ne_nil : s ≠ []
  length_le : s.length ≤ 63
  isLabelChar : ∀ c ∈ s, IsLabelChar c
  head_ne : s.head? ≠ some '-'
  getLast_ne : s.getLast? ≠ some '-'

/-- Parts with single dots between them. -/
def dotted (parts : List (List Char)) : List Char := ['.'].intercalate parts

/-- An address as the atoms and the labels that it is made of. -/
structure Address where
  atoms : List (List Char)
  labels : List (List Char)
  atoms_ne_nil : atoms ≠ []
  isAtom : ∀ atom ∈ atoms, IsAtom atom
  isLabel : ∀ label ∈ labels, IsLabel label
  two_le : 2 ≤ labels.length
  localPart_le : (dotted atoms).length ≤ 64
  text_le : (dotted atoms ++ '@' :: dotted labels).length ≤ 320

def Address.text (a : Address) : List Char := dotted a.atoms ++ '@' :: dotted a.labels

theorem dotted_cons (part : List Char) (parts : List (List Char)) :
    dotted (part :: parts) = part ++ (parts.map ('.' :: ·)).flatten := by
  induction parts generalizing part with
  | nil => simp [dotted]
  | cons next parts ih =>
    have hnext : dotted (part :: next :: parts) = part ++ '.' :: dotted (next :: parts) := by
      simp [dotted]
    rw [hnext, ih next]
    simp

theorem mem_dotted {parts : List (List Char)} (hc : c ∈ dotted parts) :
    c = '.' ∨ ∃ part ∈ parts, c ∈ part := by
  cases parts with
  | nil => simp [dotted] at hc
  | cons part parts =>
    rw [dotted_cons] at hc
    simp only [List.mem_append, List.mem_flatten, List.mem_map] at hc
    obtain hc | ⟨_, ⟨next, hnext, rfl⟩, hc⟩ := hc
    · exact Or.inr ⟨part, List.mem_cons_self, hc⟩
    · obtain hdot | hc := List.mem_cons.1 hc
      · exact Or.inl hdot
      · exact Or.inr ⟨next, List.mem_cons_of_mem part hnext, hc⟩

/-! ### Characters -/

theorem mem_alphanumeric : alphanumeric.mem c = true ↔ c.isAlphanum = true := by
  simp only [alphanumeric, CharSet.mem_union, CharSet.mem_range_upper, CharSet.mem_range_lower,
    CharSet.mem_range_digit, CharSet.isAlphanum_eq, Bool.or_assoc]

theorem mem_atomChars : atomChars.mem c = true ↔ IsAtomChar c := by
  rw [atomChars, CharSet.mem_union, Bool.or_eq_true, mem_alphanumeric, CharSet.mem_ofList,
    IsAtomChar]

theorem mem_labelChars :
    (CharSet.union alphanumeric (.single '-')).mem c = true ↔ IsLabelChar c := by
  rw [CharSet.mem_union, Bool.or_eq_true, mem_alphanumeric, CharSet.mem_single, IsLabelChar]

theorem val_le_of_isAlphanum (h : c.isAlphanum = true) : c.val ≤ 127 :=
  Nat.le_of_lt_succ (of_decide_eq_true (isAscii_of_isAlphanum h))

theorem IsAtomChar.val_le (h : IsAtomChar c) : c.val ≤ 127 := by
  have hmarks : ("!#$%&'*+/=?^_\x60\x7b|\x7d~-".toList.all fun d => d.val ≤ 127) = true := rfl
  cases h with
  | inl halphanum => exact val_le_of_isAlphanum halphanum
  | inr hmark => exact of_decide_eq_true (List.all_eq_true.1 hmarks c hmark)

theorem IsLabelChar.val_le (h : IsLabelChar c) : c.val ≤ 127 := by
  cases h with
  | inl halphanum => exact val_le_of_isAlphanum halphanum
  | inr hhyphen =>
    rw [hhyphen]
    decide

theorem not_isLabelChar_dot : ¬IsLabelChar '.' := by
  unfold IsLabelChar
  decide

theorem not_isLabelChar_at : ¬IsLabelChar '@' := by
  unfold IsLabelChar
  decide

/-! ### The length in bytes -/

theorem byteLength_cons (c : Char) (s : List Char) :
    byteLength (c :: s) = byteLength s + c.utf8Size := by
  simp only [byteLength, String.utf8ByteSize_ofList, String.utf8Len_cons]

theorem length_le_byteLength (s : List Char) : s.length ≤ byteLength s := by
  induction s with
  | nil => exact Nat.zero_le _
  | cons c s ih =>
    have hc := c.utf8Size_pos
    rw [byteLength_cons, List.length_cons]
    omega

theorem byteLength_of_ascii (h : ∀ c ∈ s, c.val ≤ 127) : byteLength s = s.length := by
  induction s with
  | nil => rfl
  | cons c s ih =>
    obtain ⟨hc, hs⟩ := List.forall_mem_cons.1 h
    rw [byteLength_cons, ih hs, Char.utf8Size_eq_one_iff.2 hc, List.length_cons]

/-! ### The local part -/

theorem matchesWhole_localGrammar : localGrammar.MatchesWhole s ↔
    ∃ atoms, atoms ≠ [] ∧ (∀ atom ∈ atoms, IsAtom atom) ∧ dotted atoms = s := by
  simp (disch := decide) only [localGrammar, Regex.matchesWhole_seq, Regex.matchesWhole_star,
    Regex.matchesWhole_char, Regex.matchesWhole_plus_chars, mem_atomChars]
  constructor
  · intro h
    obtain ⟨first, _, hs, hfirst, parts, hrest, hparts⟩ := h
    -- Every round has a dot in front, and an atom is left without it.
    have hatoms : (parts.map List.tail).map ('.' :: ·) = parts := by
      rw [List.map_map]
      refine (List.map_congr_left fun part hpart => ?_).trans (List.map_id parts)
      obtain ⟨_, atom, hpart, hdot, -⟩ := hparts part hpart
      rw [hpart, hdot]
      rfl
    refine ⟨first :: parts.map List.tail, List.cons_ne_nil _ _, ?_, ?_⟩
    · rw [List.forall_mem_cons, List.forall_mem_map]
      refine ⟨hfirst, fun part hpart => ?_⟩
      obtain ⟨_, atom, hpart, hdot, hatom⟩ := hparts part hpart
      rw [hpart, hdot]
      exact hatom
    · rw [dotted_cons, hatoms, hs, hrest]
  · intro h
    obtain ⟨atoms, hne, hatoms, hs⟩ := h
    obtain ⟨first, rest, hcons⟩ := List.exists_cons_of_ne_nil hne
    rw [hcons, List.forall_mem_cons] at hatoms
    rw [hcons, dotted_cons] at hs
    refine ⟨first, _, hs.symm, hatoms.1, rest.map ('.' :: ·), rfl, ?_⟩
    rw [List.forall_mem_map]
    exact fun atom hatom => ⟨['.'], atom, rfl, rfl, hatoms.2 atom hatom⟩

theorem val_le_of_atoms {atoms : List (List Char)} (h : ∀ atom ∈ atoms, IsAtom atom)
    (hc : c ∈ dotted atoms) : c.val ≤ 127 := by
  obtain hdot | ⟨atom, hatom, hc⟩ := mem_dotted hc
  · rw [hdot]
    decide
  · exact ((h atom hatom).2 c hc).val_le

theorem isLocalPart_iff : isLocalPart s = true ↔
    s.length ≤ 64 ∧ ∃ atoms, atoms ≠ [] ∧ (∀ atom ∈ atoms, IsAtom atom) ∧ dotted atoms = s := by
  rw [isLocalPart, Bool.and_eq_true, decide_eq_true_eq, Regex.matchesWhole_iff,
    matchesWhole_localGrammar]
  refine and_congr_left fun h => ?_
  obtain ⟨atoms, -, hatoms, hs⟩ := h
  rw [byteLength_of_ascii fun c hc => val_le_of_atoms hatoms (hs ▸ hc), localPartLimit]

/-! ### The domain -/

theorem ne_hyphen_of_isAlphanum (h : c.isAlphanum = true) : c ≠ '-' := by
  intro hc
  rw [hc] at h
  exact absurd h (by decide)

theorem matchesWhole_labelGrammar : labelGrammar.MatchesWhole s ↔ IsLabel s := by
  simp (disch := decide) only [labelGrammar, Regex.matchesWhole_seq, Regex.matchesWhole_optional,
    Regex.matchesWhole_chars, Regex.matchesWhole_repeated_chars, Regex.allows_some, mem_labelChars,
    mem_alphanumeric]
  constructor
  · intro h
    obtain ⟨_, second, hs, ⟨c, rfl, hc⟩, hsecond⟩ := h
    rw [List.singleton_append] at hs
    obtain hnil | ⟨middle, _, hsecond, ⟨⟨-, hlength⟩, hmiddle⟩, d, rfl, hd⟩ := hsecond
    · subst hnil hs
      have hne : ∀ e, some c = some e → e ≠ '-' := fun e he =>
        Option.some.inj he ▸ ne_hyphen_of_isAlphanum hc
      exact ⟨List.cons_ne_nil _ _, by simp, List.forall_mem_singleton.2 (Or.inl hc),
        fun he => hne '-' he rfl, fun he => hne '-' he rfl⟩
    · subst hsecond hs
      refine ⟨List.cons_ne_nil _ _, ?_, ?_, ?_, ?_⟩
      · simp only [List.length_cons, List.length_append, List.length_nil]
        omega
      · simp only [List.forall_mem_cons, List.forall_mem_append]
        exact ⟨Or.inl hc, hmiddle, Or.inl hd, List.forall_mem_nil _⟩
      · simpa using ne_hyphen_of_isAlphanum hc
      · rw [← List.cons_append, List.getLast?_concat]
        simpa using ne_hyphen_of_isAlphanum hd
  · intro h
    obtain ⟨hne, hlength, hchars, hhead, hlast⟩ := h
    obtain ⟨c, rest, rfl⟩ := List.exists_cons_of_ne_nil hne
    rw [List.forall_mem_cons] at hchars
    have hc : c.isAlphanum = true := hchars.1.resolve_right fun he => hhead (by rw [he]; rfl)
    refine ⟨[c], rest, rfl, ⟨c, rfl, hc⟩, ?_⟩
    obtain rfl | ⟨middle, d, rfl⟩ := List.eq_nil_or_concat' rest
    · exact Or.inl rfl
    · rw [← List.cons_append, List.getLast?_concat] at hlast
      rw [List.forall_mem_append, List.forall_mem_cons] at hchars
      have hd : d.isAlphanum = true := hchars.2.2.1.resolve_right fun he => hlast (by rw [he])
      refine Or.inr ⟨middle, [d], rfl, ⟨⟨Nat.zero_le _, ?_⟩, hchars.2.1⟩, d, rfl, hd⟩
      simp only [List.length_cons, List.length_append, List.length_nil] at hlength
      omega

theorem splitOn_eq (mark : Char) (s : List Char) : splitOn mark s = s.splitOn mark := by
  induction s with
  | nil => rfl
  | cons c s ih =>
    rw [splitOn, ih, List.splitOn_cons_eq_if_modifyHead]
    obtain ⟨part, parts, hparts⟩ := List.exists_cons_of_ne_nil (List.splitOn_ne_nil mark s)
    by_cases hc : c = mark
    · simp [hc]
    · simp [hc, hparts]

theorem isDomain_iff : isDomain s = true ↔
    ∃ labels, 2 ≤ labels.length ∧ (∀ label ∈ labels, IsLabel label) ∧ dotted labels = s := by
  simp only [isDomain, splitOn_eq, Bool.and_eq_true, decide_eq_true_eq, List.all_eq_true,
    Regex.matchesWhole_iff, matchesWhole_labelGrammar]
  constructor
  · intro h
    exact ⟨s.splitOn '.', h.1, h.2, List.intercalate_splitOn '.'⟩
  · intro h
    obtain ⟨labels, htwo, hlabels, hs⟩ := h
    -- No label has a dot, so the text is cut where the labels were put together.
    have hdot : ∀ label ∈ labels, '.' ∉ label := fun label hlabel hdot =>
      not_isLabelChar_dot ((hlabels label hlabel).isLabelChar '.' hdot)
    have hne : labels ≠ [] := by
      intro hnil
      rw [hnil, List.length_nil] at htwo
      omega
    rw [← hs, dotted, List.splitOn_intercalate '.' hdot hne]
    exact ⟨htwo, hlabels⟩

/-! ### The at sign -/

theorem splitAtLast?_eq_none {mark : Char} (h : mark ∉ s) : splitAtLast? mark s = none := by
  induction s with
  | nil => rfl
  | cons c s ih =>
    obtain ⟨hc, hs⟩ := not_or.1 (mt List.mem_cons.2 h)
    rw [splitAtLast?, ih hs]
    exact if_neg (Ne.symm hc)

theorem splitAtLast?_append_cons {mark : Char} (first : List Char) {last : List Char}
    (h : mark ∉ last) : splitAtLast? mark (first ++ mark :: last) = some (first, last) := by
  induction first with
  | nil => rw [List.nil_append, splitAtLast?, splitAtLast?_eq_none h, if_pos rfl]
  | cons c first ih => rw [List.cons_append, splitAtLast?, ih]

namespace Address

variable (a : Address)

theorem char_of_labels (hc : c ∈ dotted a.labels) : c = '.' ∨ IsLabelChar c := by
  obtain hdot | ⟨label, hlabel, hc⟩ := mem_dotted hc
  · exact Or.inl hdot
  · exact Or.inr ((a.isLabel label hlabel).isLabelChar c hc)

theorem at_not_mem : '@' ∉ dotted a.labels := by
  intro hc
  obtain hdot | hlabel := a.char_of_labels hc
  · exact absurd hdot (by decide)
  · exact not_isLabelChar_at hlabel

theorem val_le : ∀ c ∈ a.text, c.val ≤ 127 := by
  intro c hc
  obtain hatoms | hc := List.mem_append.1 hc
  · exact val_le_of_atoms a.isAtom hatoms
  · obtain hat | hc := List.mem_cons.1 hc
    · rw [hat]
      decide
    · obtain hdot | hlabel := a.char_of_labels hc
      · rw [hdot]
        decide
      · exact hlabel.val_le

end Address

end Email

/-- A value is an address if and only if it is, without the blank characters around it, the text of
an address with its parts. -/
theorem isEmailAddress_iff (value : String) :
    isEmailAddress value = true ↔ ∃ a : Email.Address, a.text = trim value.toList := by
  simp only [isEmailAddress, Bool.and_eq_true, decide_eq_true_eq]
  constructor
  · intro h
    obtain ⟨hbytes, hparts⟩ := h
    split at hparts
    · rename_i localPart domain hsplit
      obtain ⟨hlocal, hdomain⟩ := Bool.and_eq_true_iff.1 hparts
      obtain ⟨hlength, atoms, hne, hatoms, rfl⟩ := Email.isLocalPart_iff.1 hlocal
      obtain ⟨labels, htwo, hlabels, rfl⟩ := Email.isDomain_iff.1 hdomain
      have htext := Email.splitAtLast?_append hsplit
      -- No text has fewer bytes than characters.
      have hwhole : (trim value.toList).length ≤ 320 :=
        Nat.le_trans (Email.length_le_byteLength _) hbytes
      rw [htext] at hwhole
      exact ⟨⟨atoms, labels, hne, hatoms, hlabels, htwo, hlength, hwhole⟩, htext.symm⟩
    · exact absurd hparts Bool.false_ne_true
  · intro h
    obtain ⟨a, ha⟩ := h
    rw [← ha, Email.byteLength_of_ascii a.val_le, Email.Address.text,
      Email.splitAtLast?_append_cons _ a.at_not_mem]
    refine ⟨a.text_le, Bool.and_eq_true_iff.2 ⟨?_, ?_⟩⟩
    · exact Email.isLocalPart_iff.2 ⟨a.localPart_le, a.atoms, a.atoms_ne_nil, a.isAtom, rfl⟩
    · exact Email.isDomain_iff.2 ⟨a.labels, a.two_le, a.isLabel, rfl⟩

end FormRules
