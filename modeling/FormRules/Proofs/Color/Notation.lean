import FormRules.Proofs.Color.Component
import FormRules.Proofs.Pattern.Positions

/-!
# Notations of colours

A colour is written in hexadecimal digits, or as components with commas between them that may stand
in parentheses behind the name of the format.  `ColorFormat.accepts_iff_isNotation` finds that these
texts are what a format accepts among the values in digits of ASCII.  Digits of other scripts are
accepted too: `ColorFormat.accepts_iff_readings` finds that a value with such digits is accepted
exactly if every way to read them as digits of ASCII gives a notation of the format.

The components are those of `color_pattern`, in which `\d` stands for a digit of any script.
-/

namespace FormRules

open FormRules.Text FormRules.Pattern FormRules.Numeral

namespace Color

inductive Component where
  | channel
  | hue
  | percentage
  | alpha

namespace Component

def grammar : Component → Regex
  | channel => Color.channel
  | hue => Color.hue
  | percentage => Color.percent
  | alpha => Color.alpha

def IsText (s : List Char) : Component → Prop
  | channel => IsNumber 255 s
  | hue => IsNumber 360 s
  | percentage => IsPercentage s
  | alpha => IsAlpha s

end Component

-- Hexadecimal digits are no components.
def components : ColorFormat → List Component
  | .hex => []
  | .rgb => [.channel, .channel, .channel]
  | .rgba => [.channel, .channel, .channel, .alpha]
  | .hsl => [.hue, .percentage, .percentage]
  | .hsla => [.hue, .percentage, .percentage, .alpha]

/-- Components with a comma between any two, and blank characters on either side of a comma. -/
inductive IsBody : List Component → List Char → Prop
  | single (component : Component) (text : List Char) (h : component.IsText text) :
    IsBody [component] text
  | cons (component : Component) (others : List Component) (text left right rest : List Char)
    (h : component.IsText text) (hleft : AllBlank left) (hright : AllBlank right)
    (hrest : IsBody others rest) :
    IsBody (component :: others) (text ++ (left ++ ',' :: (right ++ rest)))

def IsHexDigit (c : Char) : Prop :=
  c.isDigit = true ∨ ('a' ≤ c ∧ c ≤ 'f') ∨ ('A' ≤ c ∧ c ≤ 'F')

/-- Three or six digits, with or without a number sign. -/
def IsHexNotation (s : List Char) : Prop :=
  ∃ digits, (∀ c ∈ digits, IsHexDigit c) ∧ (digits.length = 6 ∨ digits.length = 3) ∧
    (s = digits ∨ s = '#' :: digits)

/-- A body in parentheses behind a name, or alone. -/
def IsFunctionalNotation (name : List Char) (components : List Component) (s : List Char) : Prop :=
  ∃ body, IsBody components body ∧ (s = name ++ '(' :: (body ++ [')']) ∨ s = body)

end Color

/-- The texts of the colours in a format. -/
def ColorFormat.IsNotation (format : ColorFormat) (s : List Char) : Prop :=
  match format with
  | .hex => Color.IsHexNotation s
  | _ => Color.IsFunctionalNotation format.name.toList (Color.components format) s

namespace Color

variable {s : List Char} {c : Char} {components : List Component}

/-! ### Components with commas -/

theorem Component.matchesWhole_grammar (component : Component) :
    component.grammar.MatchesWhole s ↔ component.IsText (s.map nine) := by
  cases component with
  | channel => exact matchesWhole_channel
  | hue => exact matchesWhole_hue
  | percentage => exact matchesWhole_percent
  | alpha => exact matchesWhole_alpha

theorem Component.isLookFree_grammar (component : Component) :
    component.grammar.isLookFree = true := by
  cases component <;> rfl

theorem allBlank_map_nine : AllBlank (s.map nine) ↔ AllBlank s := by
  simp only [AllBlank, List.forall_mem_map, isBlank_nine]

theorem matchesWhole_comma : comma.MatchesWhole s ↔
    ∃ left right, s = left ++ ',' :: right ∧ AllBlank left ∧ AllBlank right := by
  simp (disch := decide) only [comma, Regex.seqs, Regex.matchesWhole_seq, Regex.matchesWhole_char,
    Regex.matchesWhole_star_chars]
  constructor
  · intro h
    obtain ⟨left, _, hs, hleft, _, right, rfl, rfl, hright⟩ := h
    exact ⟨left, right, hs, hleft, hright⟩
  · intro h
    obtain ⟨left, right, hs, hleft, hright⟩ := h
    exact ⟨left, ',' :: right, hs, hleft, [','], right, rfl, rfl, hright⟩

theorem isLookFree_comma : comma.isLookFree = true := rfl

theorem isLookFree_separated (components : List Component) :
    (separated (components.map Component.grammar)).isLookFree = true := by
  induction components with
  | nil => rfl
  | cons component others ih =>
    cases others with
    | nil => exact component.isLookFree_grammar
    | cons next others =>
      simp only [List.map_cons, separated, Regex.seqs, Regex.isLookFree,
        component.isLookFree_grammar, isLookFree_comma, Bool.true_and] at ih ⊢
      exact ih

theorem isBody_single {component : Component} : IsBody [component] s ↔ component.IsText s := by
  constructor
  · intro h
    cases h with
    | single _ _ h => exact h
    | cons _ _ _ _ _ _ _ _ _ hrest => exact nomatch hrest
  · intro h
    exact .single component s h

theorem isBody_cons {component next : Component} {others : List Component} :
    IsBody (component :: next :: others) s ↔ ∃ text left right rest,
      s = text ++ (left ++ ',' :: (right ++ rest)) ∧ component.IsText text ∧ AllBlank left ∧
        AllBlank right ∧ IsBody (next :: others) rest := by
  constructor
  · intro h
    cases h with
    | cons _ _ text left right rest htext hleft hright hrest =>
      exact ⟨text, left, right, rest, rfl, htext, hleft, hright, hrest⟩
  · intro h
    obtain ⟨text, left, right, rest, hs, htext, hleft, hright, hrest⟩ := h
    rw [hs]
    exact .cons _ _ _ _ _ _ htext hleft hright hrest

theorem matchesWhole_separated (hne : components ≠ []) :
    (separated (components.map Component.grammar)).MatchesWhole s ↔
      IsBody components (s.map nine) := by
  induction components generalizing s with
  | nil => exact absurd rfl hne
  | cons component others ih =>
    cases others with
    | nil => rw [isBody_single, ← component.matchesWhole_grammar, List.map_singleton, separated]
    | cons next others =>
      -- A comma and the blanks around it are kept, so both sides are cut at the same places.
      have hmark (c : Char) : nine c = ',' ↔ c = ',' := nine_eq_iff rfl
      have hparts : separated ((component :: next :: others).map Component.grammar) =
          .seq component.grammar (.seq comma
            (separated ((next :: others).map Component.grammar))) := rfl
      rw [isBody_cons, hparts]
      simp (disch := simp only [Regex.isLookFree, Component.isLookFree_grammar,
          isLookFree_comma, isLookFree_separated, Bool.and_self])
        only [Regex.matchesWhole_seq, matchesWhole_comma, component.matchesWhole_grammar,
        ih (List.cons_ne_nil _ _)]
      constructor
      · intro h
        obtain ⟨text, _, hs, htext, _, rest, rfl, ⟨left, right, rfl, hleft, hright⟩, hrest⟩ := h
        refine ⟨text.map nine, left.map nine, right.map nine, rest.map nine, ?_, htext,
          allBlank_map_nine.2 hleft, allBlank_map_nine.2 hright, hrest⟩
        rw [hs]
        simp [(hmark ',').2 rfl]
      · intro h
        obtain ⟨_, _, _, _, hs, htext, hleft, hright, hrest⟩ := h
        simp only [List.map_eq_append_iff, List.map_eq_cons_iff, hmark] at hs
        obtain ⟨text, _, rfl, rfl, left, _, rfl, rfl, _, _, rfl, rfl, right, rest, rfl, rfl,
          rfl⟩ := hs
        have hcomma : AllBlank left ∧ AllBlank right :=
          ⟨allBlank_map_nine.1 hleft, allBlank_map_nine.1 hright⟩
        exact ⟨text, _, rfl, htext, left ++ ',' :: right, rest, by simp,
          ⟨left, right, rfl, hcomma⟩, hrest⟩

/-! ### Formats -/

theorem matchesWhole_functional {name : String} (hname : name.toList.all isFaithful = true)
    (hne : components ≠ []) :
    (functional name (components.map Component.grammar)).MatchesWhole s ↔
      IsFunctionalNotation name.toList components (s.map nine) := by
  have hopen (c : Char) : nine c = '(' ↔ c = '(' := nine_eq_iff rfl
  have hclose (c : Char) : nine c = ')' ↔ c = ')' := nine_eq_iff rfl
  simp (disch := simp [Regex.isLookFree, Regex.char, Regex.isLookFree_text, isLookFree_separated])
    only [functional, Regex.seqs, Regex.matchesWhole_alt, Regex.matchesWhole_seq,
    Regex.matchesWhole_char, Regex.matchesWhole_text, matchesWhole_separated hne]
  constructor
  · intro h
    obtain ⟨_, _, hs, rfl, _, _, rfl, rfl, body, _, rfl, hbody, rfl⟩ | hbody := h
    · refine ⟨body.map nine, hbody, Or.inl ?_⟩
      rw [hs, List.map_append, (map_nine_eq_iff hname).2 rfl]
      simp [(hopen '(').2 rfl, (hclose ')').2 rfl]
    · exact ⟨s.map nine, hbody, Or.inr rfl⟩
  · intro h
    obtain ⟨_, hbody, hs | hs⟩ := h
    · simp only [List.map_eq_append_iff, List.map_eq_cons_iff, List.map_eq_nil_iff, hopen, hclose,
        map_nine_eq_iff hname] at hs
      obtain ⟨_, _, rfl, rfl, _, _, rfl, rfl, body, _, rfl, rfl, _, _, rfl, rfl, rfl⟩ := hs
      exact Or.inl ⟨_, _, rfl, rfl, ['('], _, rfl, rfl, body, [')'], rfl, hbody, rfl⟩
    · exact Or.inr (hs ▸ hbody)

theorem all_isFaithful_name (format : ColorFormat) :
    format.name.toList.all isFaithful = true := by
  cases format <;> rfl

theorem grammar_eq {format : ColorFormat} (h : format ≠ .hex) : grammar format =
    functional format.name ((Color.components format).map Component.grammar) := by
  cases format with
  | hex => exact absurd rfl h
  | _ => rfl

theorem isNotation_iff {format : ColorFormat} (h : format ≠ .hex) : format.IsNotation s ↔
    IsFunctionalNotation format.name.toList (Color.components format) s := by
  cases format with
  | hex => exact absurd rfl h
  | _ => rfl

theorem components_ne_nil {format : ColorFormat} (h : format ≠ .hex) :
    Color.components format ≠ [] := by
  cases format with
  | hex => exact absurd rfl h
  | _ => exact List.cons_ne_nil _ _

/-- What the grammar of a format with components has, digits of other scripts being nines. -/
theorem matchesWhole_grammar {format : ColorFormat} (h : format ≠ .hex) :
    (grammar format).MatchesWhole s ↔ format.IsNotation (s.map nine) := by
  rw [grammar_eq h, isNotation_iff h, matchesWhole_functional (all_isFaithful_name format)
    (components_ne_nil h)]

theorem mem_hexDigits :
    (CharSet.union (.range 'A' 'F') (.union (.range 'a' 'f') (.range '0' '9'))).mem c = true ↔
      IsHexDigit c := by
  rw [CharSet.mem_union, CharSet.mem_union, CharSet.mem_range_digit, CharSet.mem_range,
    CharSet.mem_range, IsHexDigit]
  simp only [Bool.or_eq_true, Bool.and_eq_true, decide_eq_true_eq]
  exact or_comm.trans (or_congr_left or_comm) |>.trans or_assoc

theorem matchesWhole_hex : (grammar .hex).MatchesWhole s ↔ IsHexNotation s := by
  have hexactly (n m : Nat) : Regex.Allows n (some n) m ↔ m = n := by
    rw [Regex.allows_some (Nat.le_refl n)]
    omega
  simp (disch := decide) only [grammar, hexDigit, Regex.matchesWhole_seq,
    Regex.matchesWhole_optional, Regex.matchesWhole_char, Regex.matchesWhole_alt,
    Regex.matchesWhole_repeated_chars, mem_hexDigits, hexactly, ← or_and_right]
  constructor
  · intro h
    obtain ⟨_, digits, hs, rfl | rfl, hlength, hdigits⟩ := h
    · exact ⟨digits, hdigits, hlength, Or.inl hs⟩
    · exact ⟨digits, hdigits, hlength, Or.inr hs⟩
  · intro h
    obtain ⟨digits, hdigits, hlength, hs | hs⟩ := h
    · exact ⟨[], digits, hs, Or.inl rfl, hlength, hdigits⟩
    · exact ⟨['#'], digits, hs, Or.inr rfl, hlength, hdigits⟩

theorem isForeignDigit_of_isHexDigit (h : IsHexDigit c) : isForeignDigit c = false := by
  obtain hdigit | hletter := h
  · exact isForeignDigit_of_isDigit hdigit
  · have hascii : c.toNat < 128 := by
      obtain ⟨-, hle⟩ | ⟨-, hle⟩ := hletter
      · exact Nat.lt_of_le_of_lt hle (by decide)
      · exact Nat.lt_of_le_of_lt hle (by decide)
    exact isForeignDigit_of_lt hascii

theorem isForeignDigit_of_isHexNotation (h : IsHexNotation s) (hc : c ∈ s) :
    isForeignDigit c = false := by
  obtain ⟨digits, hdigits, -, rfl | rfl⟩ := h
  · exact isForeignDigit_of_isHexDigit (hdigits c hc)
  · obtain rfl | hc := List.mem_cons.1 hc
    · rfl
    · exact isForeignDigit_of_isHexDigit (hdigits c hc)

/-! ### Readings -/

/-- A way to read digits of other scripts as digits of ASCII. -/
structure Reading where
  read : Char → Char
  isDigit_read : ∀ c, isForeignDigit c = true → (read c).isDigit = true
  read_self : ∀ c, isForeignDigit c = false → read c = c

namespace Reading

def nines : Reading where
  read := nine
  isDigit_read := by
    intro c hc
    rw [isDigit_nine]
    exact (Bool.and_eq_true_iff.1 hc).1
  read_self := fun c hc => nine_of_isForeignDigit hc

variable (reading : Reading)

theorem map_read (h : ∀ c ∈ s, isForeignDigit c = false) : s.map reading.read = s := by
  refine (List.map_congr_left fun c hc => ?_).trans (List.map_id s)
  exact reading.read_self c (h c hc)

theorem isForeignDigit_read (c : Char) : isForeignDigit (reading.read c) = false := by
  cases hc : isForeignDigit c with
  | true => exact isForeignDigit_of_isDigit (reading.isDigit_read c hc)
  | false => rwa [reading.read_self c hc]

theorem isDecimalDigit_read (h : isDecimalDigit c = true) :
    isDecimalDigit (reading.read c) = true := by
  cases hc : isForeignDigit c with
  | true => exact isDecimalDigit_of_isDigit (reading.isDigit_read c hc)
  | false => rwa [reading.read_self c hc]

theorem map_nine_map_read (s : List Char) :
    (s.map reading.read).map nine = s.map reading.read := by
  refine nines.map_read fun c hc => ?_
  obtain ⟨d, -, rfl⟩ := List.mem_map.1 hc
  exact reading.isForeignDigit_read d

/-! ### A grammar takes every reading -/

theorem isKeptBy_chars {set : CharSet} (h : ∀ c, set.mem c = true → isForeignDigit c = false) :
    (Regex.chars set).IsKeptBy reading.read := by
  intro c hc
  rwa [reading.read_self c (h c hc)]

theorem isKeptBy_char {d : Char} (h : isForeignDigit d = false) :
    (Regex.char d).IsKeptBy reading.read :=
  reading.isKeptBy_chars fun c hc => by rwa [(CharSet.mem_single d c).1 hc]

theorem isKeptBy_text {t : List Char} (h : t.all isFaithful = true) :
    (Regex.text t).IsKeptBy reading.read := by
  fun_induction Regex.text t with
  | case1 => trivial
  | case2 c =>
    rw [List.all_cons, Bool.and_eq_true] at h
    exact reading.isKeptBy_char (isForeignDigit_of_isFaithful h.1)
  | case3 c rest _ ih =>
    rw [List.all_cons, Bool.and_eq_true] at h
    exact ⟨reading.isKeptBy_char (isForeignDigit_of_isFaithful h.1), ih h.2⟩

theorem isKeptBy_digit : digit.IsKeptBy reading.read := fun _ hc => reading.isDecimalDigit_read hc

theorem isKeptBy_upToFour : (Regex.chars (.range '0' '4')).IsKeptBy reading.read := by
  refine reading.isKeptBy_chars fun c hc => ?_
  rw [CharSet.mem_range, Bool.and_eq_true, decide_eq_true_eq, decide_eq_true_eq] at hc
  exact isForeignDigit_of_lt (Nat.lt_of_le_of_lt hc.2 (by decide))

theorem isKeptBy_oneTwo : (Regex.chars (.ofList ['1', '2'])).IsKeptBy reading.read := by
  refine reading.isKeptBy_chars fun c hc => ?_
  rw [CharSet.mem_ofList, List.mem_pair] at hc
  obtain rfl | rfl := hc
  · rfl
  · rfl

theorem isKeptBy_comma : comma.IsKeptBy reading.read := by
  have hblank : (Regex.star (.chars (.property isBlank))).IsKeptBy reading.read :=
    reading.isKeptBy_chars fun c hc => isForeignDigit_of_isBlank hc
  exact ⟨hblank, reading.isKeptBy_char rfl, hblank⟩

-- The sets of the components are the digits of every script and sets of characters of ASCII.
theorem isKeptBy_component (component : Component) :
    component.grammar.IsKeptBy reading.read := by
  cases component <;>
    simp (disch := decide) only [Component.grammar, channel, hue, percent, alpha, short, among,
      Regex.alts, Regex.seqs, Regex.optional, isKeptBy_char, isKeptBy_text, isKeptBy_digit,
      ↓isKeptBy_upToFour, ↓isKeptBy_oneTwo, Regex.IsKeptBy, and_true]

theorem isKeptBy_separated (components : List Component) :
    (separated (components.map Component.grammar)).IsKeptBy reading.read := by
  induction components with
  | nil => trivial
  | cons component others ih =>
    cases others with
    | nil => exact reading.isKeptBy_component component
    | cons next others => exact ⟨reading.isKeptBy_component component, reading.isKeptBy_comma, ih⟩

/-- What the grammar of a format with components matches, it matches under every reading. -/
theorem matchesWhole_map_read {format : ColorFormat} (h : format ≠ .hex)
    (hs : (grammar format).MatchesWhole s) :
    (grammar format).MatchesWhole (s.map reading.read) := by
  have hbody := reading.isKeptBy_separated (Color.components format)
  have hname : (Regex.text format.name.toList).IsKeptBy reading.read :=
    reading.isKeptBy_text (all_isFaithful_name format)
  have hkept : (grammar format).IsKeptBy reading.read := by
    rw [grammar_eq h]
    exact ⟨⟨hname, reading.isKeptBy_char rfl, hbody, reading.isKeptBy_char rfl⟩, hbody⟩
  have hfree : (grammar format).isLookFree = true := by
    rw [grammar_eq h]
    simp only [functional, Regex.seqs, Regex.isLookFree, Regex.isLookFree_text, Regex.char,
      isLookFree_separated, Bool.and_self]
  exact Regex.Matches.map hs hfree hkept

end Reading

end Color

namespace ColorFormat

open Color

theorem accepts_eq_true {format : ColorFormat} {value : String} :
    format.accepts value = true ↔ (grammar format).MatchesWhole (trim value.toList) := by
  rw [accepts, Regex.matchesWhole_iff]

/-- A value in which every decimal digit is one of ASCII is accepted if and only if it is, without
the blank characters around it, a notation of the format. -/
theorem accepts_iff_isNotation (format : ColorFormat) (value : String)
    (hdigits : ∀ c ∈ value.toList, isDecimalDigit c = true → c.isDigit = true) :
    format.accepts value = true ↔ format.IsNotation (trim value.toList) := by
  rw [accepts_eq_true]
  by_cases hformat : format = .hex
  · rw [hformat, matchesWhole_hex]
    exact Iff.rfl
  · have hself : (trim value.toList).map nine = trim value.toList :=
      Reading.nines.map_read fun c hc =>
        isForeignDigit_eq_false.2 (hdigits c ((isInfix_trim _).subset hc))
    rw [matchesWhole_grammar hformat, hself]

/-- A hue with zeros in front, and blank characters around the commas. -/
theorem accepts_iff_isNotation_hsl :
    let value := " 007 ,\t100%, 5% "
    (∀ c ∈ value.toList, isDecimalDigit c = true → c.isDigit = true) ∧
      ColorFormat.hsl.accepts value = true ∧ ColorFormat.hsl.IsNotation (trim value.toList) := by
  intro value
  have hplain : value.toList.all (!isForeignDigit ·) = true := by decide
  have hdigits : ∀ c ∈ value.toList, isDecimalDigit c = true → c.isDigit = true := by
    intro c hc
    have hforeign := List.all_eq_true.1 hplain c hc
    rw [Bool.not_eq_true'] at hforeign
    exact isForeignDigit_eq_false.1 hforeign
  have haccepted : ColorFormat.hsl.accepts value = true := by decide +kernel
  exact ⟨hdigits, haccepted, (accepts_iff_isNotation .hsl value hdigits).1 haccepted⟩

/-- A value is accepted if and only if every reading of its digits of other scripts is a notation
of the format, where hexadecimal digits are digits of ASCII only. -/
theorem accepts_iff_readings (format : ColorFormat) (value : String) :
    format.accepts value = true ↔
      (format = .hex → ∀ c ∈ value.toList, isDecimalDigit c = true → c.isDigit = true) ∧
        ∀ reading : Reading, format.IsNotation ((trim value.toList).map reading.read) := by
  rw [accepts_eq_true]
  by_cases hformat : format = .hex
  · subst hformat
    rw [matchesWhole_hex]
    constructor
    · intro h
      have hforeign : ∀ c ∈ trim value.toList, isForeignDigit c = false :=
        fun c hc => isForeignDigit_of_isHexNotation h hc
      refine ⟨fun _ c hc hdigit => ?_, fun reading => ?_⟩
      · have htrim := mem_trim hc (isBlank_of_isDecimalDigit hdigit)
        exact isForeignDigit_eq_false.1 (hforeign c htrim) hdigit
      · rw [reading.map_read hforeign]
        exact h
    · intro h
      obtain ⟨hascii, hreadings⟩ := h
      have hself := Reading.nines.map_read fun c hc =>
        isForeignDigit_eq_false.2 (hascii rfl c ((isInfix_trim _).subset hc))
      rw [← hself]
      exact hreadings .nines
  · constructor
    · intro h
      refine ⟨fun hhex => absurd hhex hformat, fun reading => ?_⟩
      rw [← reading.map_nine_map_read, ← matchesWhole_grammar hformat]
      exact reading.matchesWhole_map_read hformat h
    · intro h
      exact (matchesWhole_grammar hformat).2 (h.2 .nines)

/-- A channel in an Arabic digit. -/
theorem accepts_arabicDigit :
    let value := "rgb(\u0663,0,0)"
    ColorFormat.rgb.accepts value = true ∧ '\u0663' ∈ value.toList ∧
      isDecimalDigit '\u0663' = true ∧ '\u0663'.isDigit = false := by
  decide +kernel

end ColorFormat

end FormRules
