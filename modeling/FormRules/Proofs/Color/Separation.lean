import FormRules.Proofs.Color.Notation

/-!
# A value is a colour in at most one format

Commas and percent signs tell the formats apart.  A body has one comma less than it has components
and a percent sign for each percentage; a name and parentheses around the body add neither, and
hexadecimal digits have neither.  `ColorFormat.eq_of_accepts` compares the two counts.
-/

namespace FormRules

open FormRules.Text FormRules.Pattern FormRules.Numeral

namespace Color

variable {s : List Char} {component : Component} {components : List Component}

/-! ### Commas and percent signs of components -/

def Component.percentSigns : Component → Nat
  | percentage => 1
  | _ => 0

theorem count_eq_zero_of_forall {p : Char → Prop} {mark : Char} (h : ∀ c ∈ s, p c)
    (hmark : ¬p mark) : s.count mark = 0 :=
  List.count_eq_zero.2 fun hmem => hmark (h mark hmem)

theorem count_digits (h : AllDigits s) : s.count ',' = 0 ∧ s.count '%' = 0 :=
  ⟨count_eq_zero_of_forall h (by decide), count_eq_zero_of_forall h (by decide)⟩

theorem count_blanks (h : AllBlank s) : s.count ',' = 0 ∧ s.count '%' = 0 :=
  ⟨count_eq_zero_of_forall h (by decide), count_eq_zero_of_forall h (by decide)⟩

theorem count_isPercentage (h : IsPercentage s) : s.count ',' = 0 ∧ s.count '%' = 1 := by
  obtain hs | ⟨digits, hs, hdigits, -⟩ := h
  · subst hs
    exact ⟨rfl, rfl⟩
  · obtain ⟨hcomma, hpercent⟩ := count_digits hdigits
    rw [hs, List.count_append, List.count_append, hcomma, hpercent]
    exact ⟨rfl, rfl⟩

theorem count_isAlpha (h : IsAlpha s) : s.count ',' = 0 ∧ s.count '%' = 0 := by
  obtain hs | hs | ⟨d, hd, hs⟩ := h
  · subst hs
    exact ⟨rfl, rfl⟩
  · subst hs
    exact ⟨rfl, rfl⟩
  · have hcounts : [d].count ',' = 0 ∧ [d].count '%' = 0 :=
      count_digits (List.forall_mem_singleton.2 hd)
    obtain hs | hs := hs
    · subst hs
      exact hcounts
    · subst hs
      exact hcounts

theorem Component.count_isText (h : component.IsText s) :
    s.count ',' = 0 ∧ s.count '%' = component.percentSigns := by
  cases component with
  | channel => exact count_digits h.allDigits
  | hue => exact count_digits h.allDigits
  | percentage => exact count_isPercentage h
  | alpha => exact count_isAlpha h

/-! ### Commas and percent signs of formats -/

theorem count_isBody (h : IsBody components s) : s.count ',' + 1 = components.length ∧
    s.count '%' = (components.map Component.percentSigns).sum := by
  induction h with
  | single component text htext =>
    obtain ⟨hcomma, hpercent⟩ := Component.count_isText htext
    rw [hcomma, hpercent]
    exact ⟨rfl, rfl⟩
  | cons component others text left right rest htext hleft hright _ ih =>
    obtain ⟨hcomma, hpercent⟩ := Component.count_isText htext
    have hleft := count_blanks hleft
    have hright := count_blanks hright
    simp only [List.count_append, List.length_cons, List.map_cons, List.sum_cons]
    rw [List.count_cons_self, List.count_cons_of_ne (by decide)]
    simp only [List.count_append]
    omega

/-- How many commas and how many percent signs a colour in the format has. -/
def signs (format : ColorFormat) : Nat × Nat :=
  ((Color.components format).length - 1,
    ((Color.components format).map Component.percentSigns).sum)

theorem signs_injective {a b : ColorFormat} (h : signs a = signs b) : a = b := by
  cases a <;> cases b <;> first | rfl | exact absurd h (by decide)

theorem count_isHexNotation (h : IsHexNotation s) : s.count ',' = 0 ∧ s.count '%' = 0 := by
  obtain ⟨digits, hdigits, -, hs⟩ := h
  have hcomma : digits.count ',' = 0 :=
    count_eq_zero_of_forall hdigits (by unfold IsHexDigit; decide)
  have hpercent : digits.count '%' = 0 :=
    count_eq_zero_of_forall hdigits (by unfold IsHexDigit; decide)
  obtain hs | hs := hs
  · rw [hs]
    exact ⟨hcomma, hpercent⟩
  · rw [hs, List.count_cons_of_ne (by decide), List.count_cons_of_ne (by decide)]
    exact ⟨hcomma, hpercent⟩

theorem count_isNotation {format : ColorFormat} (h : format.IsNotation s) :
    (s.count ',', s.count '%') = signs format := by
  by_cases hformat : format = .hex
  · subst hformat
    obtain ⟨hcomma, hpercent⟩ := count_isHexNotation h
    rw [hcomma, hpercent]
    rfl
  · obtain ⟨body, hbody, hs⟩ := (isNotation_iff hformat).1 h
    obtain ⟨hcomma, hpercent⟩ := count_isBody hbody
    have hname : format.name.toList.count ',' = 0 ∧ format.name.toList.count '%' = 0 := by
      cases format <;> exact ⟨rfl, rfl⟩
    have hcounts : s.count ',' = body.count ',' ∧ s.count '%' = body.count '%' := by
      obtain hs | hs := hs
      · rw [hs]
        simp [hname]
      · rw [hs]
        exact ⟨rfl, rfl⟩
    rw [signs, hcounts.1, hcounts.2, hpercent, ← hcomma]
    rfl

end Color

namespace ColorFormat

open Color

theorem isNotation_of_accepts {format : ColorFormat} {value : String}
    (h : format.accepts value = true) : format.IsNotation ((trim value.toList).map nine) := by
  have hmatches := accepts_eq_true.1 h
  by_cases hformat : format = .hex
  · subst hformat
    have hnotation := matchesWhole_hex.1 hmatches
    have hself := Reading.nines.map_read fun c hc => isForeignDigit_of_isHexNotation hnotation hc
    exact Eq.subst (motive := IsHexNotation) hself.symm hnotation
  · exact (matchesWhole_grammar hformat).1 hmatches

/-- No value is accepted in two formats. -/
theorem eq_of_accepts {a b : ColorFormat} {value : String} (ha : a.accepts value = true)
    (hb : b.accepts value = true) : a = b := by
  have hsigns : signs a = signs b :=
    (count_isNotation (isNotation_of_accepts ha)).symm.trans
      (count_isNotation (isNotation_of_accepts hb))
  exact signs_injective hsigns

theorem eq_of_accepts_bare :
    let value := " 170 , 50%,45% , .7"
    ColorFormat.hsla.accepts value = true ∧
      ∀ format : ColorFormat, format.accepts value = true → format = .hsla := by
  intro value
  have haccepted : ColorFormat.hsla.accepts value = true := by decide +kernel
  exact ⟨haccepted, fun format h => eq_of_accepts h haccepted⟩

end ColorFormat

end FormRules
