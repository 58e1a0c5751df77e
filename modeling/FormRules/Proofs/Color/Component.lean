import FormRules.Color
import FormRules.Proofs.Number.Literal
import FormRules.Proofs.Pattern.Language

/-!
# Components of colours

A component of a colour is a number within bounds, a percentage or an alpha value, written in
decimal digits.  The grammar of a component takes digits of other scripts in some places and not in
others: it takes such a digit exactly where it takes a nine.  The lemmas `matchesWhole_channel` and
so on therefore speak of the text with nines in the place of those digits.
-/

namespace FormRules

open FormRules.Text FormRules.Pattern FormRules.Numeral

namespace Color

variable {s : List Char} {a b c d : Char} {most : Nat}

/-! ### Digits of other scripts -/

theorem isBlank_of_isDecimalDigit (h : isDecimalDigit c = true) : isBlank c = false := by
  have hother : ∀ first ∈ otherZeros, ∀ k < 10, isBlank (Char.ofNat (first + k)) = false := by
    decide +kernel
  unfold isDecimalDigit at h
  split at h
  · exact isBlank_of_isDigit h
  · obtain ⟨first, hfirst, hrange⟩ := List.any_eq_true.1 h
    simp only [Bool.and_eq_true, decide_eq_true_eq] at hrange
    have hc := hother first hfirst (c.toNat - first) (by omega)
    rwa [Nat.add_sub_cancel' hrange.1, Char.ofNat_toNat] at hc

def isForeignDigit (c : Char) : Bool := isDecimalDigit c && !c.isDigit

theorem isForeignDigit_eq_false :
    isForeignDigit c = false ↔ (isDecimalDigit c = true → c.isDigit = true) := by
  unfold isForeignDigit
  cases isDecimalDigit c <;> simp

/-- A digit of another script becomes a nine. -/
def nine (c : Char) : Char := if isForeignDigit c then '9' else c

theorem isDigit_nine : (nine c).isDigit = isDecimalDigit c := by
  unfold nine isForeignDigit
  cases hc : c.isDigit with
  | true => simp [hc, isDecimalDigit_of_isDigit hc]
  | false => cases hd : isDecimalDigit c <;> simp [hc]

theorem nine_of_isForeignDigit (h : isForeignDigit c = false) : nine c = c := by
  rw [nine, h, if_neg Bool.false_ne_true]

theorem isForeignDigit_of_isDigit (h : c.isDigit = true) : isForeignDigit c = false := by
  rw [isForeignDigit, h, Bool.not_true, Bool.and_false]

theorem isForeignDigit_of_lt (h : c.toNat < 128) : isForeignDigit c = false := by
  simp [isForeignDigit, isDecimalDigit, isAscii, h]

theorem isForeignDigit_of_isBlank (h : isBlank c = true) : isForeignDigit c = false := by
  unfold isForeignDigit
  cases hd : isDecimalDigit c with
  | true => exact absurd ((isBlank_of_isDecimalDigit hd).symm.trans h) Bool.false_ne_true
  | false => rfl

/-- Whether the character, and no other, becomes this one. -/
def isFaithful (c : Char) : Bool := c != '9' && !isForeignDigit c

theorem isForeignDigit_of_isFaithful (h : isFaithful c = true) : isForeignDigit c = false := by
  simp only [isFaithful, Bool.and_eq_true, Bool.not_eq_true'] at h
  exact h.2

theorem eq_of_nine_eq (h : nine c = d) (hd : d ≠ '9') : c = d := by
  unfold nine at h
  split at h
  · exact absurd h.symm hd
  · exact h

theorem nine_eq_iff (hd : isFaithful d = true) : nine c = d ↔ c = d := by
  have hforeign := isForeignDigit_of_isFaithful hd
  simp only [isFaithful, Bool.and_eq_true, bne_iff_ne] at hd
  constructor
  · intro h
    exact eq_of_nine_eq h hd.1
  · intro h
    rw [h, nine_of_isForeignDigit hforeign]

theorem isBlank_nine : isBlank (nine c) = isBlank c := by
  unfold nine
  split
  · rename_i hforeign
    rw [isBlank_of_isDecimalDigit (Bool.and_eq_true_iff.1 hforeign).1]
    rfl
  · rfl

/-- The value of a digit, which is the greatest one if the digit is of another script. -/
def digitValue (c : Char) : Nat := (nine c).toNat - '0'.toNat

theorem digitValue_le (h : isDecimalDigit c = true) : digitValue c ≤ 9 := by
  rw [← isDigit_nine, Char.isDigit_iff_toNat] at h
  have hzero : '0'.toNat = 48 := rfl
  have hnine : '9'.toNat = 57 := rfl
  rw [digitValue]
  omega

/-- Below nine a value tells the digit. -/
theorem eq_iff_digitValue (hd : d.isDigit = true) (hne : d ≠ '9') :
    c = d ↔ isDecimalDigit c = true ∧ digitValue c = digitValue d := by
  constructor
  · intro h
    rw [h]
    exact ⟨isDecimalDigit_of_isDigit hd, rfl⟩
  · intro h
    obtain ⟨hc, hvalue⟩ := h
    refine eq_of_nine_eq ?_ hne
    rw [← isDigit_nine, Char.isDigit_iff_toNat] at hc
    rw [digitValue, digitValue, nine_of_isForeignDigit (isForeignDigit_of_isDigit hd)] at hvalue
    rw [Char.isDigit_iff_toNat] at hd
    apply Char.toNat_inj.1
    omega

/-- A set of digits that holds a digit according to its value. -/
def HasValues (set : CharSet) (p : Nat → Prop) : Prop :=
  ∀ c, set.mem c = true ↔ isDecimalDigit c = true ∧ p (digitValue c)

theorem hasValues_property : HasValues (.property isDecimalDigit) fun _ => True := by
  intro c
  rw [and_true]
  rfl

theorem hasValues_single (hd : d.isDigit = true) (hne : d ≠ '9') :
    HasValues (.single d) (· = digitValue d) := by
  intro c
  rw [CharSet.mem_single, eq_iff_digitValue hd hne]

theorem hasValues_oneTwo : HasValues (.ofList ['1', '2']) fun value => value = 1 ∨ value = 2 := by
  intro c
  simp only [CharSet.mem_ofList, List.mem_cons, List.not_mem_nil, or_false, and_or_left]
  exact or_congr (eq_iff_digitValue rfl (by decide)) (eq_iff_digitValue rfl (by decide))

theorem hasValues_upToFour : HasValues (.range '0' '4') (· ≤ 4) := by
  intro c
  have hrange : (CharSet.range '0' '4').mem c = true ↔ 48 ≤ c.toNat ∧ c.toNat ≤ 52 := by
    rw [CharSet.mem_range, Bool.and_eq_true, decide_eq_true_eq, decide_eq_true_eq]
    exact Iff.rfl
  have hzero : '0'.toNat = 48 := rfl
  have hnine : '9'.toNat = 57 := rfl
  rw [hrange, ← isDigit_nine, Char.isDigit_iff_toNat, digitValue]
  constructor
  · intro h
    have hc : c.isDigit = true := Char.isDigit_iff_toNat.2 (by omega)
    rw [nine_of_isForeignDigit (isForeignDigit_of_isDigit hc)]
    omega
  · intro h
    have hc : c = nine c := by
      refine eq_of_nine_eq rfl fun h9 => ?_
      rw [h9] at h
      omega
    rw [hc]
    omega

/-! ### Numbers -/

/-- One to three digits of a number up to `most`. -/
structure IsNumber (most : Nat) (s : List Char) : Prop where
  allDigits : AllDigits s
  ne_nil : s ≠ []
  length_le : s.length ≤ 3
  le_most : Nat.ofDigitChars 10 s 0 ≤ most

theorem matchesWhole_digit : digit.MatchesWhole s ↔ ∃ c, s = [c] ∧ isDecimalDigit c = true :=
  Regex.matchesWhole_chars

theorem allDigits_map_nine :
    AllDigits (s.map nine) ↔ ∀ c ∈ s, isDecimalDigit c = true := by
  simp only [AllDigits, List.forall_mem_map, isDigit_nine]

/-- One or two digits. -/
def IsShort (s : List Char) : Prop :=
  (∃ c, s = [c] ∧ isDecimalDigit c = true) ∨
    ∃ b c, s = [b, c] ∧ isDecimalDigit b = true ∧ isDecimalDigit c = true

/-- Three digits whose values satisfy a condition. -/
def IsTriple (p : Nat → Nat → Nat → Prop) (s : List Char) : Prop :=
  ∃ a b c, s = [a, b, c] ∧
    (isDecimalDigit a = true ∧ isDecimalDigit b = true ∧ isDecimalDigit c = true) ∧
    p (digitValue a) (digitValue b) (digitValue c)

variable {p q : Nat → Nat → Nat → Prop}

theorem isTriple_or :
    IsTriple p s ∨ IsTriple q s ↔ IsTriple (fun i j k => p i j k ∨ q i j k) s := by
  simp only [IsTriple, and_or_left, exists_or]

theorem isTriple_congr (h : ∀ i j k, i ≤ 9 → j ≤ 9 → k ≤ 9 → (p i j k ↔ q i j k)) :
    IsTriple p s ↔ IsTriple q s := by
  refine exists_congr fun a => exists_congr fun b => exists_congr fun c =>
    and_congr_right fun _ => and_congr_right fun hdigits => ?_
  exact h _ _ _ (digitValue_le hdigits.1) (digitValue_le hdigits.2.1) (digitValue_le hdigits.2.2)

theorem ofDigitChars_map_nine (s : List Char) (n : Nat) : Nat.ofDigitChars 10 (s.map nine) n =
    s.foldl (fun value c => 10 * value + digitValue c) n := by
  induction s generalizing n with
  | nil => rfl
  | cons c s ih => rw [List.map_cons, Nat.ofDigitChars_cons, ih, List.foldl_cons, digitValue]

theorem isNumber_map_nine (hmost : 99 ≤ most) : IsNumber most (s.map nine) ↔
    IsShort s ∨ IsTriple (fun i j k => 100 * i + 10 * j + k ≤ most) s := by
  constructor
  · intro h
    obtain ⟨hdigits, hne, hlength, hle⟩ := h
    rw [allDigits_map_nine] at hdigits
    match s with
    | [] => exact absurd rfl hne
    | [c] => exact Or.inl (Or.inl ⟨c, rfl, hdigits c (by simp)⟩)
    | [b, c] => exact Or.inl (Or.inr ⟨b, c, rfl, hdigits b (by simp), hdigits c (by simp)⟩)
    | [a, b, c] =>
      simp only [ofDigitChars_map_nine, List.foldl_cons, List.foldl_nil] at hle
      refine Or.inr ⟨a, b, c, rfl, ⟨hdigits a (by simp), hdigits b (by simp), hdigits c (by simp)⟩,
        ?_⟩
      omega
    | a :: b :: c :: d :: rest =>
      simp only [List.length_map, List.length_cons] at hlength
      omega
  · intro h
    obtain (⟨c, rfl, hc⟩ | ⟨b, c, rfl, hb, hc⟩) | ⟨a, b, c, rfl, ⟨ha, hb, hc⟩, hle⟩ := h
    · have hcv := digitValue_le hc
      refine ⟨allDigits_map_nine.2 (by simp [hc]), by simp, by simp, ?_⟩
      simp only [ofDigitChars_map_nine, List.foldl_cons, List.foldl_nil]
      omega
    · have hbv := digitValue_le hb
      have hcv := digitValue_le hc
      refine ⟨allDigits_map_nine.2 (by simp [hb, hc]), by simp, by simp, ?_⟩
      simp only [ofDigitChars_map_nine, List.foldl_cons, List.foldl_nil]
      omega
    · refine ⟨allDigits_map_nine.2 (by simp [ha, hb, hc]), by simp, by simp, ?_⟩
      simp only [ofDigitChars_map_nine, List.foldl_cons, List.foldl_nil]
      omega

theorem matchesWhole_triple {x y z : CharSet} {px py pz : Nat → Prop} (hx : HasValues x px)
    (hy : HasValues y py) (hz : HasValues z pz) :
    (Regex.seqs [.chars x, .chars y, .chars z]).MatchesWhole s ↔
      IsTriple (fun i j k => px i ∧ py j ∧ pz k) s := by
  have hlast : (Regex.seq (.chars y) (.chars z)).isLookFree = true := rfl
  have hwhole : (Regex.seq (.chars x) (.seq (.chars y) (.chars z))).isLookFree = true := rfl
  simp only [Regex.seqs, Regex.matchesWhole_seq hwhole, Regex.matchesWhole_seq hlast,
    Regex.matchesWhole_chars, hx _, hy _, hz _]
  constructor
  · intro h
    obtain ⟨_, _, hs, ⟨a, rfl, ha, hpa⟩, _, _, rfl, ⟨b, rfl, hb, hpb⟩, c, rfl, hc, hpc⟩ := h
    exact ⟨a, b, c, hs, ⟨ha, hb, hc⟩, hpa, hpb, hpc⟩
  · intro h
    obtain ⟨a, b, c, hs, ⟨ha, hb, hc⟩, hpa, hpb, hpc⟩ := h
    exact ⟨[a], [b, c], hs, ⟨a, rfl, ha, hpa⟩, [b], [c], rfl, ⟨b, rfl, hb, hpb⟩, c, rfl, hc, hpc⟩

-- A zero counts as the first of three digits only if both others follow.
theorem matchesWhole_short : short.MatchesWhole s ↔
    IsShort s ∨ IsTriple (fun i _ _ => i = 0) s := by
  simp (disch := decide) only [short, Regex.seqs, Regex.matchesWhole_seq,
    Regex.matchesWhole_optional, Regex.matchesWhole_char, matchesWhole_digit]
  constructor
  · intro h
    obtain ⟨_, _, hs, rfl | rfl, _, _, rfl, rfl | ⟨b, rfl, hb⟩, c, rfl, hc⟩ := h
    · exact Or.inl (Or.inl ⟨c, hs, hc⟩)
    · exact Or.inl (Or.inr ⟨b, c, hs, hb, hc⟩)
    · exact Or.inl (Or.inr ⟨'0', c, hs, rfl, hc⟩)
    · exact Or.inr ⟨'0', b, c, hs, ⟨rfl, hb, hc⟩, rfl⟩
  · intro h
    obtain (⟨c, hs, hc⟩ | ⟨b, c, hs, hb, hc⟩) | ⟨a, b, c, hs, ⟨ha, hb, hc⟩, hvalue⟩ := h
    · exact ⟨[], _, hs, Or.inl rfl, [], _, rfl, Or.inl rfl, c, rfl, hc⟩
    · exact ⟨[], _, hs, Or.inl rfl, [b], _, rfl, Or.inr ⟨b, rfl, hb⟩, c, rfl, hc⟩
    · have hzero : a = '0' := (eq_iff_digitValue rfl (by decide)).2 ⟨ha, hvalue⟩
      rw [hzero] at hs
      exact ⟨['0'], [b, c], hs, Or.inr rfl, [b], [c], rfl, Or.inr ⟨b, rfl, hb⟩, c, rfl, hc⟩

/-- Up to two digits after an optional zero, and four kinds of three digits that complete them to
the numbers up to `most`. -/
theorem matchesWhole_numbers {w x y z : Regex} {pw px py pz : Nat → Nat → Nat → Prop}
    (hmost : 99 ≤ most) (hw : w.MatchesWhole s ↔ IsTriple pw s)
    (hx : x.MatchesWhole s ↔ IsTriple px s) (hy : y.MatchesWhole s ↔ IsTriple py s)
    (hz : z.MatchesWhole s ↔ IsTriple pz s)
    (hvalues : ∀ i j k, i ≤ 9 → j ≤ 9 → k ≤ 9 →
      (pw i j k ∨ px i j k ∨ py i j k ∨ pz i j k ∨ i = 0 ↔ 100 * i + 10 * j + k ≤ most)) :
    (Regex.alts [.char '0', w, x, y, z, short]).MatchesWhole s ↔ IsNumber most (s.map nine) := by
  simp only [Regex.alts, Regex.matchesWhole_alt, Regex.matchesWhole_char, hw, hx, hy, hz,
    matchesWhole_short]
  rw [isNumber_map_nine hmost]
  -- The zero alone is a short number too, so what is left concerns three digits.
  by_cases hshort : IsShort s
  · simp only [hshort, true_or, or_true]
  · have hzero : s ≠ ['0'] := fun hs => hshort (Or.inl ⟨'0', hs, rfl⟩)
    simp only [hshort, hzero, false_or, isTriple_or]
    exact isTriple_congr hvalues

theorem matchesWhole_channel : channel.MatchesWhole s ↔ IsNumber 255 (s.map nine) := by
  have htwo : HasValues (.single '2') (· = 2) := hasValues_single rfl (by decide)
  have hfive : HasValues (.single '5') (· = 5) := hasValues_single rfl (by decide)
  have hone : HasValues (.single '1') (· = 1) := hasValues_single rfl (by decide)
  have hlast : (Regex.text "255".toList).MatchesWhole s ↔ _ := matchesWhole_triple htwo hfive hfive
  have hfifties : (Regex.seq (.text "25".toList) (among '0' '4')).MatchesWhole s ↔ _ :=
    (Regex.matchesWhole_seq_assoc rfl).trans (matchesWhole_triple htwo hfive hasValues_upToFour)
  have htwenties : (Regex.seqs [.char '2', among '0' '4', digit]).MatchesWhole s ↔ _ :=
    matchesWhole_triple htwo hasValues_upToFour hasValues_property
  have hteens : (Regex.seqs [.char '1', digit, digit]).MatchesWhole s ↔ _ :=
    matchesWhole_triple hone hasValues_property hasValues_property
  refine matchesWhole_numbers (by decide) hlast hfifties htwenties hteens fun i j k hi hj hk => ?_
  simp only [and_true]
  omega

theorem matchesWhole_hue : hue.MatchesWhole s ↔ IsNumber 360 (s.map nine) := by
  have hzero : HasValues (.single '0') (· = 0) := hasValues_single rfl (by decide)
  have hthree : HasValues (.single '3') (· = 3) := hasValues_single rfl (by decide)
  have hfive : HasValues (.single '5') (· = 5) := hasValues_single rfl (by decide)
  have hsix : HasValues (.single '6') (· = 6) := hasValues_single rfl (by decide)
  have hlast : (Regex.text "360".toList).MatchesWhole s ↔ _ :=
    matchesWhole_triple hthree hsix hzero
  have hfifties : (Regex.seq (.text "35".toList) digit).MatchesWhole s ↔ _ :=
    (Regex.matchesWhole_seq_assoc rfl).trans (matchesWhole_triple hthree hfive hasValues_property)
  have hthirties : (Regex.seqs [.char '3', among '0' '4', digit]).MatchesWhole s ↔ _ :=
    matchesWhole_triple hthree hasValues_upToFour hasValues_property
  have hbelow : (Regex.seqs [.chars (.ofList ['1', '2']), digit, digit]).MatchesWhole s ↔ _ :=
    matchesWhole_triple hasValues_oneTwo hasValues_property hasValues_property
  refine matchesWhole_numbers (by decide) hlast hfifties hthirties hbelow fun i j k hi hj hk => ?_
  simp only [and_true]
  omega

/-! ### Percentages and alpha values -/

def IsPercentage (s : List Char) : Prop :=
  s = "100%".toList ∨
    ∃ digits, s = digits ++ ['%'] ∧ AllDigits digits ∧ (digits.length = 1 ∨ digits.length = 2)

def IsAlpha (s : List Char) : Prop :=
  s = "1".toList ∨ s = "1.0".toList ∨
    ∃ d : Char, d.isDigit = true ∧ (s = ['.', d] ∨ s = ['0', '.', d])

theorem map_nine_eq_iff {t : List Char} (h : t.all isFaithful = true) :
    s.map nine = t ↔ s = t := by
  induction t generalizing s with
  | nil => exact List.map_eq_nil_iff
  | cons d t ih =>
    rw [List.all_cons, Bool.and_eq_true] at h
    cases s with
    | nil => simp
    | cons c s =>
      rw [List.map_cons, List.cons.injEq, List.cons.injEq, ih h.2, nine_eq_iff h.1]

theorem matchesWhole_percent : percent.MatchesWhole s ↔ IsPercentage (s.map nine) := by
  have hmark {t : List Char} : t.map nine = ['%'] ↔ t = ['%'] := map_nine_eq_iff rfl
  have hfull : s.map nine = "100%".toList ↔ s = "100%".toList := map_nine_eq_iff rfl
  have hset (c : Char) : (CharSet.property isDecimalDigit).mem c = isDecimalDigit c := rfl
  simp (disch := decide) only [percent, digit, Regex.alts, Regex.matchesWhole_seq,
    Regex.matchesWhole_alt, Regex.matchesWhole_char, Regex.matchesWhole_text,
    Regex.matchesWhole_repeated_chars, Regex.allows_some, hset, ← allDigits_map_nine]
  rw [IsPercentage, hfull]
  constructor
  · intro h
    obtain ⟨digits, _, hs, hfirst, rfl⟩ := h
    obtain rfl | rfl | ⟨⟨hleast, hmost⟩, hdigits⟩ := hfirst
    · exact Or.inr ⟨['0'], by rw [hs]; rfl, List.forall_mem_singleton.2 rfl, Or.inl rfl⟩
    · exact Or.inl hs
    · refine Or.inr ⟨digits.map nine, ?_, hdigits, ?_⟩
      · rw [hs, List.map_append, hmark.2 rfl]
      · rw [List.length_map]
        omega
  · intro h
    obtain hs | ⟨_, hs, hdigits, hlength⟩ := h
    · exact ⟨"100".toList, ['%'], hs, Or.inr (Or.inl rfl), rfl⟩
    · obtain ⟨digits, mark, rfl, rfl, hpercent⟩ := List.map_eq_append_iff.1 hs
      rw [List.length_map] at hlength
      refine ⟨digits, mark, rfl, Or.inr (Or.inr ⟨⟨?_, ?_⟩, hdigits⟩), hmark.1 hpercent⟩
      · omega
      · omega

theorem matchesWhole_alpha : alpha.MatchesWhole s ↔ IsAlpha (s.map nine) := by
  have hone : s.map nine = "1".toList ↔ s = "1".toList := map_nine_eq_iff rfl
  have hdecimal : s.map nine = "1.0".toList ↔ s = "1.0".toList := map_nine_eq_iff rfl
  have hpoint (c : Char) : nine c = '.' ↔ c = '.' := nine_eq_iff rfl
  have hzero (c : Char) : nine c = '0' ↔ c = '0' := nine_eq_iff rfl
  simp (disch := decide) only [alpha, Regex.seqs, Regex.matchesWhole_seq, Regex.matchesWhole_alt,
    Regex.matchesWhole_optional, Regex.matchesWhole_char, Regex.matchesWhole_text,
    matchesWhole_digit]
  rw [IsAlpha, hone, hdecimal]
  constructor
  · intro h
    obtain ⟨_, _, hs, rfl | rfl, _, _, rfl, rfl, c, rfl, hc⟩ | ⟨_, _, hs, rfl, rfl | rfl⟩ := h
    · exact Or.inr (Or.inr ⟨nine c, isDigit_nine.trans hc, Or.inl (by rw [hs]; rfl)⟩)
    · exact Or.inr (Or.inr ⟨nine c, isDigit_nine.trans hc, Or.inr (by rw [hs]; rfl)⟩)
    · exact Or.inl hs
    · exact Or.inr (Or.inl hs)
  · intro h
    obtain hs | hs | ⟨d, hd, hs | hs⟩ := h
    · exact Or.inr ⟨['1'], [], hs, rfl, Or.inl rfl⟩
    · exact Or.inr ⟨['1'], ".0".toList, hs, rfl, Or.inr rfl⟩
    · simp only [List.map_eq_cons_iff, List.map_eq_nil_iff, hpoint] at hs
      obtain ⟨_, _, rfl, rfl, c, _, rfl, rfl, rfl⟩ := hs
      rw [isDigit_nine] at hd
      exact Or.inl ⟨[], _, rfl, Or.inl rfl, ['.'], [c], rfl, rfl, c, rfl, hd⟩
    · simp only [List.map_eq_cons_iff, List.map_eq_nil_iff, hpoint, hzero] at hs
      obtain ⟨_, _, rfl, rfl, _, _, rfl, rfl, c, _, rfl, rfl, rfl⟩ := hs
      rw [isDigit_nine] at hd
      exact Or.inl ⟨['0'], _, rfl, Or.inr rfl, ['.'], [c], rfl, rfl, c, rfl, hd⟩

end Color

end FormRules
