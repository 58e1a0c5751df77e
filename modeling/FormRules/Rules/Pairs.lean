import FormRules.NameMap
import FormRules.Text.Blank

/-!
# Pairs of a rule text

A rule text lists pairs of a name and a value, such as `type:string|max:50`.  A name is a run of
ASCII letters; after it, with blank characters around, stands a colon or an equals sign; the value
runs up to the next bar.  A value in slashes may hold bars: it ends at the first slash after which
only letters and blank characters stand before a bar or the end.  What forms no pair is passed over.
`RulePairs.ofText` gives the map of the pairs, in which a later pair wins over an earlier one.

Embeds `parse_rules` (`RulePairs.ofText`) and, as a scanner, `RULE_PAIR_REGEX` (`RuleText.pairs`);
specification, section 4.1.
-/

namespace FormRules

open FormRules.Text

/-- The values that a rule text gives to names. -/
abbrev RulePairs := NameMap String

namespace RuleText

/-- Whether a character goes on with a value that is not in slashes. -/
def isPlain (c : Char) : Bool := c != '|'

/-- A value that is not in slashes, and the text from the next bar on.  It has at least one
character, which may be blank. -/
def plainValue? (s : List Char) : Option (List Char × List Char) :=
  match s.takeWhile isPlain with
  | [] => none
  | c :: value => some (trim (c :: value), s.dropWhile isPlain)

/-- What ends a value in slashes, after the slash: letters that belong to the value, then blank
characters and a bar or the end. -/
def closing? (s : List Char) : Option (List Char × List Char) :=
  let letters := s.takeWhile Char.isAlpha
  match trimStart (s.dropWhile Char.isAlpha) with
  | [] => some (letters, [])
  | c :: rest => if c = '|' then some (letters, rest) else none

/-- What is left of a value after its opening slash, and the text behind the bar that ends it. -/
def slashedValue? : List Char → Option (List Char × List Char)
  | [] => none
  | c :: rest =>
    match if c = '/' then closing? rest else none with
    | some (letters, rest) => some ('/' :: letters, rest)
    | none =>
      if c = '\n' then none
      else (slashedValue? rest).map fun (value, rest) => (c :: value, rest)

/-- The value at the start of a text, after blank characters. -/
def value? (s : List Char) : Option (List Char × List Char) :=
  match trimStart s with
  | [] => plainValue? s
  | c :: rest =>
    match if c = '/' then slashedValue? rest else none with
    | some (value, rest) => some ('/' :: value, rest)
    | none => plainValue? s

/-- The value of a name, given the text after the name. -/
def valueOfName? (s : List Char) : Option (List Char × List Char) :=
  match trimStart s with
  | [] => none
  | c :: rest => if c = ':' ∨ c = '=' then value? rest else none

/-! ### The text left over is shorter -/

theorem length_dropWhile_le {p : Char → Bool} (s : List Char) : (s.dropWhile p).length ≤ s.length :=
  (List.dropWhile_sublist p).length_le

theorem length_trimStart_le (s : List Char) : (trimStart s).length ≤ s.length :=
  length_dropWhile_le s

theorem length_plainValue? {s value rest : List Char} (h : plainValue? s = some (value, rest)) :
    rest.length ≤ s.length := by
  unfold plainValue? at h
  split at h
  · exact absurd h (by simp)
  · obtain ⟨_, rfl⟩ := Prod.mk.inj (Option.some.inj h)
    exact length_dropWhile_le s

theorem length_closing? {s letters rest : List Char} (h : closing? s = some (letters, rest)) :
    rest.length ≤ s.length := by
  have hdrop := length_trimStart_le (s.dropWhile Char.isAlpha)
  have hs : (s.dropWhile Char.isAlpha).length ≤ s.length := length_dropWhile_le s
  simp only [closing?] at h
  split at h
  · obtain ⟨_, rfl⟩ := Prod.mk.inj (Option.some.inj h)
    exact Nat.zero_le _
  · rename_i heq
    split at h
    · obtain ⟨_, rfl⟩ := Prod.mk.inj (Option.some.inj h)
      rw [heq, List.length_cons] at hdrop
      omega
    · exact absurd h (by simp)

theorem length_slashedValue? {s value rest : List Char} (h : slashedValue? s = some (value, rest)) :
    rest.length ≤ s.length := by
  induction s generalizing value with
  | nil => exact absurd h (by simp [slashedValue?])
  | cons c s ih =>
    rw [List.length_cons]
    unfold slashedValue? at h
    split at h
    · rename_i hclose
      obtain ⟨_, rfl⟩ := Prod.mk.inj (Option.some.inj h)
      split at hclose
      · have := length_closing? hclose
        omega
      · exact absurd hclose (by simp)
    · split at h
      · exact absurd h (by simp)
      · obtain ⟨pair, hpair, heq⟩ := Option.map_eq_some_iff.1 h
        obtain ⟨inner, left⟩ := pair
        obtain ⟨_, rfl⟩ := Prod.mk.inj heq
        have := ih hpair
        omega

theorem length_value? {s value rest : List Char} (h : value? s = some (value, rest)) :
    rest.length ≤ s.length := by
  have hs := length_trimStart_le s
  unfold value? at h
  split at h
  · exact length_plainValue? h
  · rename_i heq
    split at h
    · rename_i hslash
      obtain ⟨_, rfl⟩ := Prod.mk.inj (Option.some.inj h)
      split at hslash
      · have := length_slashedValue? hslash
        rw [heq, List.length_cons] at hs
        omega
      · exact absurd hslash (by simp)
    · exact length_plainValue? h

theorem length_valueOfName? {s value rest : List Char} (h : valueOfName? s = some (value, rest)) :
    rest.length < s.length := by
  have hs := length_trimStart_le s
  unfold valueOfName? at h
  split at h
  · exact absurd h (by simp)
  · rename_i heq
    rw [heq, List.length_cons] at hs
    split at h
    · have := length_value? h
      omega
    · exact absurd h (by simp)

/-! ### All pairs -/

/-- The pairs of a text, from left to right. -/
def pairs (s : List Char) : List (List Char × List Char) :=
  match s with
  | [] => []
  | c :: rest =>
    if c.isAlpha then
      let afterName := rest.dropWhile Char.isAlpha
      match h : valueOfName? afterName with
      | some (value, next) =>
        have := length_valueOfName? h
        (c :: rest.takeWhile Char.isAlpha, value) :: pairs next
      | none => pairs afterName
    else pairs rest
termination_by s.length
decreasing_by
  · have hname : afterName.length ≤ rest.length := length_dropWhile_le rest
    simp only [List.length_cons]
    omega
  · have hname : (rest.dropWhile Char.isAlpha).length ≤ rest.length := length_dropWhile_le rest
    simp only [List.length_cons]
    omega
  · simp only [List.length_cons]
    omega

end RuleText

def RulePairs.ofText (ruleText : String) : RulePairs :=
  NameMap.ofList ((RuleText.pairs (trim ruleText.toList)).map fun (name, value) =>
    (String.ofList name, String.ofList value))

end FormRules
