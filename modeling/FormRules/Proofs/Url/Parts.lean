import FormRules.Proofs.Pattern.Language
import FormRules.Proofs.Pattern.Positions
import FormRules.Url

/-!
# The parts of a web address

A web address is written as a scheme, `www.`, a host, a dot, a top-level domain and a rest, the
first two of which may be missing.  The parts are not determined by the text, since a host may have
dots in it.  `isWebAddress_iff` finds that the values that count as web addresses are those that
can be cut into parts in some way, and that a scheme in front of a value without one makes no
difference.
-/

namespace FormRules

open FormRules.Text FormRules.Pattern

namespace Url

variable {s : List Char} {c : Char}

/-! ### Parts -/

def IsHostChar (c : Char) : Prop := c.isAlphanum = true ∨ c ∈ "-@:%._+~#=".toList

def IsPathChar (c : Char) : Prop := c.isAlphanum = true ∨ c ∈ "-@:%_+.~#?&/=".toList

def IsWordChar (c : Char) : Prop := c.isAlphanum = true ∨ c = '_'

inductive Scheme where
  | none
  | http
  | https

namespace Scheme

def text : Scheme → List Char
  | none => []
  | http => "http://".toList
  | https => "https://".toList

end Scheme

/-- A web address as the parts that it is made of. -/
structure Parts where
  scheme : Scheme
  hasWww : Bool
  host : List Char
  domain : List Char
  rest : List Char
  host_length : 2 ≤ host.length ∧ host.length ≤ 256
  isHostChar : ∀ c ∈ host, IsHostChar c
  domain_length : 2 ≤ domain.length ∧ domain.length ≤ 4
  isLower : ∀ c ∈ domain, c.isLower = true
  isPathChar : ∀ c ∈ rest, IsPathChar c
  head_rest : ∀ c, rest.head? = some c → ¬IsWordChar c

namespace Parts

def wwwText (hasWww : Bool) : List Char := if hasWww then "www.".toList else []

/-- The text behind the scheme. -/
def address (p : Parts) : List Char :=
  wwwText p.hasWww ++ (p.host ++ '.' :: (p.domain ++ p.rest))

def text (p : Parts) : List Char := p.scheme.text ++ p.address

end Parts

/-! ### Characters -/

theorem mem_alphanumeric : alphanumeric.mem c = true ↔ c.isAlphanum = true := by
  simp only [alphanumeric, CharSet.mem_union, CharSet.mem_range_upper, CharSet.mem_range_lower,
    CharSet.mem_range_digit, CharSet.isAlphanum_eq, Bool.or_assoc, Bool.or_left_comm]

theorem mem_hostChars : hostChars.mem c = true ↔ IsHostChar c := by
  rw [hostChars, CharSet.mem_union, Bool.or_eq_true, mem_alphanumeric, CharSet.mem_ofList,
    IsHostChar]

theorem mem_pathChars : pathChars.mem c = true ↔ IsPathChar c := by
  rw [pathChars, CharSet.mem_union, Bool.or_eq_true, mem_alphanumeric, CharSet.mem_ofList,
    IsPathChar]

theorem isWord_some : Look.isWord true (some c) = true ↔ IsWordChar c := by
  simp only [Look.isWord, if_true, isAsciiWordChar, Bool.or_eq_true, beq_iff_eq, IsWordChar]

theorem not_isHostChar_slash : ¬IsHostChar '/' := by
  unfold IsHostChar
  decide

/-! ### The grammar -/

theorem matchesWhole_scheme : scheme.MatchesWhole s ↔ ∃ written : Scheme, written.text = s := by
  simp (disch := decide) only [scheme, Regex.seqs, Regex.matchesWhole_optional,
    Regex.matchesWhole_seq, Regex.matchesWhole_char, Regex.matchesWhole_text]
  constructor
  · intro h
    obtain hs | ⟨_, _, hs, rfl, letter, _, rfl, hletter | hletter, rfl⟩ := h
    · exact ⟨.none, hs.symm⟩
    · exact ⟨.http, by rw [hs, hletter]; rfl⟩
    · exact ⟨.https, by rw [hs, hletter]; rfl⟩
  · intro h
    obtain ⟨written, hs⟩ := h
    rw [← hs]
    cases written with
    | none => exact Or.inl rfl
    | http => exact Or.inr ⟨"http".toList, _, rfl, rfl, [], _, rfl, Or.inl rfl, rfl⟩
    | https => exact Or.inr ⟨"http".toList, _, rfl, rfl, ['s'], _, rfl, Or.inr rfl, rfl⟩

theorem matchesWhole_www :
    (Regex.optional (.text "www.".toList)).MatchesWhole s ↔
      ∃ hasWww, Parts.wwwText hasWww = s := by
  rw [Regex.matchesWhole_optional (Regex.isLookFree_text _), Regex.matchesWhole_text]
  constructor
  · intro h
    obtain hs | hs := h
    · exact ⟨false, hs.symm⟩
    · exact ⟨true, hs.symm⟩
  · intro h
    obtain ⟨hasWww, hs⟩ := h
    cases hasWww with
    | false => exact Or.inl hs.symm
    | true => exact Or.inr hs.symm

/-- A word ends behind the domain exactly if no character of words follows. -/
theorem boundary_iff {domain : List Char} (hne : domain ≠ [])
    (hletters : ∀ c ∈ domain, c.isLower = true) (before rest : List Char) :
    (Look.boundary true).holds (before ++ domain).getLast? rest.head? = true ↔
      ∀ c, rest.head? = some c → ¬IsWordChar c := by
  have hlast : (before ++ domain).getLast? = some (domain.getLast hne) := by
    rw [List.getLast?_append, List.getLast?_eq_some_getLast hne, Option.some_or]
  have hletter : (domain.getLast hne).isLower = true := hletters _ (List.getLast_mem hne)
  have hword : Look.isWord true (some (domain.getLast hne)) = true := by
    rw [isWord_some, IsWordChar, CharSet.isAlphanum_eq, hletter, Bool.or_true, Bool.true_or]
    exact Or.inl rfl
  rw [Look.holds, hlast, hword]
  cases rest with
  | nil => simp [Look.isWord]
  | cons c rest => simp [← isWord_some]

theorem matchesWhole_grammar : grammar.MatchesWhole s ↔ ∃ p : Parts, p.text = s := by
  -- The boundary looks at the text on both sides, so `before` is kept up to it.
  unfold Regex.MatchesWhole
  simp (disch := decide) only [grammar, Regex.seqs, Regex.matches_seq, Regex.matches_look_seq,
    Regex.matches_of_isLookFree, matchesWhole_scheme, matchesWhole_www, Regex.matchesWhole_char,
    Regex.matchesWhole_repeated_chars, Regex.matchesWhole_star_chars, mem_hostChars,
    mem_pathChars, Regex.allows_some, CharSet.mem_range_lower, List.append_nil]
  constructor
  · intro h
    obtain ⟨_, _, hs, ⟨scheme, rfl⟩, _, _, haddress, ⟨hasWww, rfl⟩, host, _, hhost,
      ⟨hhostLength, hhostChars⟩, _, _, hdot, rfl, domain, rest, hdomain,
      ⟨hdomainLength, hletters⟩, hboundary, hpath⟩ := h
    have hne : domain ≠ [] := List.ne_nil_of_length_pos (by omega)
    rw [boundary_iff hne hletters] at hboundary
    refine ⟨⟨scheme, hasWww, host, domain, rest, hhostLength, hhostChars, hdomainLength, hletters,
      hpath, hboundary⟩, ?_⟩
    rw [hs, haddress, hhost, hdot, hdomain]
    rfl
  · intro h
    obtain ⟨p, hs⟩ := h
    have hne : p.domain ≠ [] := List.ne_nil_of_length_pos (by have := p.domain_length; omega)
    exact ⟨_, _, hs.symm, ⟨p.scheme, rfl⟩, _, _, rfl, ⟨p.hasWww, rfl⟩, p.host, _, rfl,
      ⟨p.host_length, p.isHostChar⟩, ['.'], _, rfl, rfl, p.domain, p.rest, rfl,
      ⟨p.domain_length, p.isLower⟩, (boundary_iff hne p.isLower _ _).2 p.head_rest, p.isPathChar⟩

/-! ### Schemes -/

/-- Where the first has no slash and the second no dot, what follows them tells the texts apart. -/
theorem append_dot_ne {first second : List Char} (hslash : '/' ∉ first) (hdot : '.' ∉ second)
    (tail back : List Char) : first ++ '.' :: tail ≠ second ++ '/' :: back := by
  intro heq
  -- The longer of the two goes on with the mark behind the other.
  obtain ⟨between, hleft, hright⟩ | ⟨between, hleft, hright⟩ := List.append_eq_append_iff.1 heq
  · cases between with
    | nil => simp at hright
    | cons c between =>
      have hc : '.' = c := (List.cons.inj hright).1
      rw [hleft, ← hc] at hdot
      simp at hdot
  · cases between with
    | nil => simp at hright
    | cons c between =>
      have hc : '/' = c := (List.cons.inj hright).1
      rw [hleft, ← hc] at hslash
      simp at hslash

theorem Scheme.exists_slash {scheme : Scheme} (h : scheme ≠ .none) :
    ∃ front back, scheme.text = front ++ '/' :: back ∧ '.' ∉ front := by
  cases scheme with
  | none => exact absurd rfl h
  | http => exact ⟨"http:".toList, "/".toList, rfl, by decide⟩
  | https => exact ⟨"https:".toList, "/".toList, rfl, by decide⟩

namespace Parts

/-- The first slash of an address stands behind a dot. -/
theorem address_ne (p : Parts) {scheme : Scheme} (h : scheme ≠ .none) (s : List Char) :
    p.address ≠ scheme.text ++ s := by
  obtain ⟨front, back, htext, hdot⟩ := Scheme.exists_slash h
  have hwww : '/' ∉ wwwText p.hasWww := by
    cases p.hasWww <;> decide
  have hhost : '/' ∉ p.host := fun hc => not_isHostChar_slash (p.isHostChar '/' hc)
  have hslash : '/' ∉ wwwText p.hasWww ++ p.host := by
    rw [List.mem_append]
    exact not_or.2 ⟨hwww, hhost⟩
  rw [htext, address, ← List.append_assoc, List.append_assoc front]
  exact append_dot_ne hslash hdot _ _

end Parts

theorem Scheme.eq_of_append {first second : Scheme} (hfirst : first ≠ .none)
    (hsecond : second ≠ .none) {a b : List Char} (h : first.text ++ a = second.text ++ b) :
    first = second := by
  -- The schemes differ in the fifth character.
  cases first with
  | none => exact absurd rfl hfirst
  | http =>
    cases second with
    | none => exact absurd rfl hsecond
    | http => rfl
    | https => exact absurd (congrArg (·[4]?) h) (by decide : some ':' ≠ some 's')
  | https =>
    cases second with
    | none => exact absurd rfl hsecond
    | http => exact absurd (congrArg (·[4]?) h) (by decide : some 's' ≠ some ':')
    | https => rfl

/-- A text with a scheme in front is cut into this scheme and the parts of the text. -/
theorem exists_parts_scheme {scheme : Scheme} (h : scheme ≠ .none) :
    (∃ p : Parts, p.text = scheme.text ++ s) ↔ ∃ p : Parts, p.address = s := by
  constructor
  · intro hparts
    obtain ⟨p, hp⟩ := hparts
    rw [Parts.text] at hp
    by_cases hnone : p.scheme = .none
    · rw [hnone] at hp
      exact absurd hp (p.address_ne h s)
    · rw [Scheme.eq_of_append hnone h hp] at hp
      exact ⟨p, List.append_cancel_left hp⟩
  · intro hparts
    obtain ⟨p, hp⟩ := hparts
    exact ⟨{ p with scheme := scheme }, by rw [← hp]; rfl⟩

theorem exists_parts_bare (h : ∀ scheme : Scheme, scheme ≠ .none → ¬scheme.text <+: s) :
    (∃ p : Parts, p.text = s) ↔ ∃ p : Parts, p.address = s := by
  constructor
  · intro hparts
    obtain ⟨p, hp⟩ := hparts
    by_cases hnone : p.scheme = .none
    · rw [Parts.text, hnone] at hp
      exact ⟨p, hp⟩
    · exact absurd ⟨p.address, hp⟩ (h p.scheme hnone)
  · intro hparts
    obtain ⟨p, hp⟩ := hparts
    exact ⟨{ p with scheme := .none }, hp⟩

end Url

theorem isWebAddress_eq_true {value : String} :
    isWebAddress value = true ↔ ∃ p : Url.Parts, p.text = value.toList := by
  rw [isWebAddress, Regex.matchesWhole_iff, Url.matchesWhole_grammar]

/-- A value is a web address if and only if it can be cut into parts, and a scheme makes no
difference in front of a value that starts with none. -/
theorem isWebAddress_iff (value : String) :
    (isWebAddress value = true ↔ ∃ p : Url.Parts, p.text = value.toList) ∧
      (¬"http://".toList <+: value.toList → ¬"https://".toList <+: value.toList →
        isWebAddress ("http://" ++ value) = isWebAddress value ∧
          isWebAddress ("https://" ++ value) = isWebAddress value) := by
  refine ⟨isWebAddress_eq_true, fun hhttp hhttps => ?_⟩
  have hbare : ∀ scheme : Url.Scheme, scheme ≠ .none → ¬scheme.text <+: value.toList := by
    intro scheme hne
    cases scheme with
    | none => exact absurd rfl hne
    | http => exact hhttp
    | https => exact hhttps
  have hvalue : isWebAddress value = true ↔ ∃ p : Url.Parts, p.address = value.toList := by
    rw [isWebAddress_eq_true, Url.exists_parts_bare hbare]
  have hscheme (scheme : Url.Scheme) (hne : scheme ≠ .none) (text : String)
      (htext : text.toList = scheme.text) : isWebAddress (text ++ value) = isWebAddress value := by
    rw [Bool.eq_iff_iff, hvalue, isWebAddress_eq_true, String.toList_append, htext,
      Url.exists_parts_scheme hne]
  exact ⟨hscheme .http nofun "http://" rfl, hscheme .https nofun "https://" rfl⟩

/-- A value that can be cut behind either of its last two dots. -/
theorem isWebAddress_iff_twoDots :
    let value := "www.ab.cd.ef?x"
    ¬"http://".toList <+: value.toList ∧ ¬"https://".toList <+: value.toList ∧
      isWebAddress ("http://" ++ value) = true ∧ isWebAddress ("https://" ++ value) = true := by
  intro value
  have hhttp : ¬"http://".toList <+: value.toList := by decide
  have hhttps : ¬"https://".toList <+: value.toList := by decide
  have haddress : isWebAddress value = true := by decide +kernel
  obtain ⟨hplain, hsecure⟩ := (isWebAddress_iff value).2 hhttp hhttps
  exact ⟨hhttp, hhttps, hplain.trans haddress, hsecure.trans haddress⟩

end FormRules
