import FormRules.Proofs.Pattern.Anchors
import FormRules.Proofs.Pattern.Modifiers

/-!
# Whole subjects

A body that is a pattern of its own and never turns verbose mode on keeps its meaning between the
anchors.  The delimited pattern then compiles as long as it is neither too deep nor too large, and
it matches exactly the subjects that the body matches from the first character to the last.
-/

namespace FormRules.Pattern

open Regex

variable {s : List Char} {i j : Nat}

/-! ### Matches between the anchors -/

theorem spans_textStart : (look .textStart).Spans s i j ↔ i = 0 ∧ j = 0 := by
  rw [spans_look]
  constructor
  · intro h
    obtain ⟨rfl, hle, hholds⟩ := h
    by_cases hzero : j = 0
    · exact ⟨hzero, hzero⟩
    · have hlt : j - 1 < s.length := by omega
      simp [Look.holds, charBefore, hzero, List.getElem?_eq_getElem hlt] at hholds
  · intro h
    obtain ⟨rfl, rfl⟩ := h
    exact ⟨rfl, Nat.zero_le _, rfl⟩

theorem spans_textEnd : (look .textEnd).Spans s i j ↔ i = s.length ∧ j = s.length := by
  rw [spans_look]
  constructor
  · intro h
    obtain ⟨rfl, hle, hholds⟩ := h
    by_cases hlt : j < s.length
    · simp [Look.holds, List.getElem?_eq_getElem hlt] at hholds
    · omega
  · intro h
    obtain ⟨rfl, rfl⟩ := h
    exact ⟨rfl, Nat.le_refl _, by simp [Look.holds]⟩

theorem spans_anchored {r : Regex} :
    r.anchored.Spans s i j ↔ i = 0 ∧ j = s.length ∧ r.Spans s 0 s.length := by
  simp only [Regex.anchored, spans_seq, spans_scope, spans_textStart, spans_textEnd]
  constructor
  · intro h
    obtain ⟨m, ⟨rfl, rfl⟩, n, hr, rfl, rfl⟩ := h
    exact ⟨rfl, rfl, hr⟩
  · intro h
    obtain ⟨rfl, rfl, hr⟩ := h
    exact ⟨0, ⟨rfl, rfl⟩, s.length, hr, rfl, rfl⟩

theorem matchesWithin_anchored (r : Regex) (s : List Char) :
    r.anchored.matchesWithin s = true ↔ r.MatchesWhole s := by
  rw [matchesWithin_iff, matchesWhole_iff_spans]
  simp only [spans_anchored]
  constructor
  · intro h
    obtain ⟨i, j, -, -, hr⟩ := h
    exact hr
  · intro h
    exact ⟨0, s.length, rfl, rfl, h⟩

/-! ### Modifier letters -/

theorem read?_letters {letters : List Char} (h : ∀ c ∈ letters, c ∈ "imsUuDA".toList)
    (modifiers : Modifiers) :
    modifiers.read? letters =
      .ok { modifiers with flags := modifiers.flags.join (Flags.ofLetters letters) } := by
  have hmodifiers : firstStranger? letters = none := by
    refine List.find?_eq_none.2 fun c hc => ?_
    have hletter : c ∈ "imsxUuDA".toList := by
      have hcases : c = 'i' ∨ c = 'm' ∨ c = 's' ∨ c = 'U' ∨ c = 'u' ∨ c = 'D' ∨ c = 'A' := by
        simpa using h c hc
      rcases hcases with rfl | rfl | rfl | rfl | rfl | rfl | rfl <;> decide
    rw [isModifier, List.contains_iff_mem.2 hletter, Bool.true_or]
    exact Bool.false_ne_true
  have hplain : letters.contains 'x' = false := by
    refine Bool.eq_false_iff.2 fun hx => ?_
    exact absurd (h 'x' (List.contains_iff_mem.1 hx)) (by decide)
  rw [Modifiers.read?_eq, hmodifiers, Modifiers.join, Modifiers.ofLetters, hplain, Bool.or_false]

/-! ### Patterns and their bodies -/

variable {p body letters : List Char} {modifiers : Modifiers} {e : Expr} {r : Regex} {after : Flags}

theorem compile_of_anchored (hsplit : Delimited.split? p = .ok (body, letters))
    (hmodifiers : Modifiers.read? {} letters = .ok modifiers)
    (hanchored : Expr.read? modifiers.verbose (anchored body) =
      if e.anchored.depth .alone ≤ maxDepth then some e.anchored else none)
    (hmeaning : e.meaning modifiers.flags = some (r, after)) :
    compile p =
      if e.anchored.depth .alone ≤ maxDepth ∧ r.anchored.fits = true then
        .ok ⟨anchored body, r.anchored⟩
      else .error .malformed := by
  simp only [compile, hsplit, hmodifiers, regexOf?, hanchored]
  by_cases hdepth : e.anchored.depth .alone ≤ maxDepth
  · have hboth : e.anchored.meaning modifiers.flags = some (r.anchored, modifiers.flags) := by
      rw [meaning_anchored, hmeaning]
      rfl
    by_cases hfits : r.anchored.fits = true
    · simp only [hdepth, if_true, hboth, hfits, and_self]
    · simp only [hdepth, if_true, hboth, hfits, Bool.false_eq_true, and_false, if_false]
  · simp only [hdepth, false_and, if_false]

/-- Apart from the limits, nothing but the body decides whether a pattern compiles. -/
theorem compile_of_body (hsplit : Delimited.split? p = .ok (body, letters))
    (hmodifiers : Modifiers.read? {} letters = .ok modifiers)
    (hread : Expr.read? modifiers.verbose body = some e)
    (hplain : (modifiers.verbose || e.turnsVerbose) = false)
    (hmeaning : e.meaning modifiers.flags = some (r, after)) :
    compile p =
      if e.anchored.depth .alone ≤ maxDepth ∧ r.anchored.fits = true then
        .ok ⟨anchored body, r.anchored⟩
      else .error .malformed := by
  have hanchored := (read_anchored hread).resolve_right fun hcomment => by
    rw [hplain] at hcomment
    exact Bool.false_ne_true hcomment.1
  exact compile_of_anchored hsplit hmodifiers hanchored hmeaning

/-- A delimited pattern matches the subjects that its body matches as a whole. -/
theorem matchesPattern_iff_matchesWhole (hsplit : Delimited.split? p = .ok (body, letters))
    (hletters : ∀ c ∈ letters, c ∈ "imsUuDA".toList) (hread : Expr.read? false body = some e)
    (hplain : e.turnsVerbose = false)
    (hmeaning : e.meaning (Flags.ofLetters letters) = some (r, after))
    (hdepth : e.anchored.depth .alone ≤ maxDepth) (hroom : r.anchored.fits = true) :
    compile p = .ok ⟨anchored body, r.anchored⟩ ∧
      ∀ s, matchesPattern p s = true ↔ r.MatchesWhole s := by
  have hflags : ({} : Flags).join (Flags.ofLetters letters) = Flags.ofLetters letters := by
    simp [Flags.join, Flags.ofLetters]
  have hmodifiers : Modifiers.read? {} letters = .ok ⟨Flags.ofLetters letters, false⟩ := by
    rw [read?_letters hletters]
    simp only [hflags]
  have hcompile : compile p = .ok ⟨anchored body, r.anchored⟩ := by
    rw [compile_of_body hsplit hmodifiers hread hplain hmeaning, if_pos ⟨hdepth, hroom⟩]
  refine ⟨hcompile, fun s => ?_⟩
  rw [matchesPattern, hcompile]
  exact matchesWithin_anchored r s

/-- The first alternative, which is shorter, does not hide the second. -/
theorem matchesPattern_iff_matchesWhole_alternatives :
    ∃ e r after, Delimited.split? "/a|ab/mU".toList = .ok ("a|ab".toList, "mU".toList) ∧
      (∀ c ∈ "mU".toList, c ∈ "imsUuDA".toList) ∧ Expr.read? false "a|ab".toList = some e ∧
      e.turnsVerbose = false ∧ e.meaning (Flags.ofLetters "mU".toList) = some (r, after) ∧
      e.anchored.depth .alone ≤ maxDepth ∧ r.anchored.fits = true ∧
      compile "/a|ab/mU".toList = .ok ⟨anchored "a|ab".toList, r.anchored⟩ ∧
      r.MatchesWhole "ab".toList ∧ matchesPattern "/a|ab/mU".toList "ab".toList = true := by
  have hsplit : Delimited.split? "/a|ab/mU".toList = .ok ("a|ab".toList, "mU".toList) := rfl
  have hletters : ∀ c ∈ "mU".toList, c ∈ "imsUuDA".toList := by simp
  have hread : Expr.read? false "a|ab".toList = some (.alt (.literal 'a' false)
      (.seq (.literal 'a' false) (.literal 'b' false))) := rfl
  have hmeaning : (Expr.alt (.literal 'a' false)
      (.seq (.literal 'a' false) (.literal 'b' false))).meaning (Flags.ofLetters "mU".toList) =
        some (.alt (char 'a') (.seq (char 'a') (char 'b')), Flags.ofLetters "mU".toList) := rfl
  have hdepth : (Expr.alt (.literal 'a' false)
      (.seq (.literal 'a' false) (.literal 'b' false))).anchored.depth .alone ≤ maxDepth := by
    decide
  have hroom : (Regex.alt (char 'a') (.seq (char 'a') (char 'b'))).anchored.fits = true := by
    decide +kernel
  have hwhole : (Regex.alt (char 'a') (.seq (char 'a') (char 'b'))).MatchesWhole "ab".toList :=
    (matchesWhole_iff _ _).1 rfl
  obtain ⟨hcompile, hmatches⟩ :=
    matchesPattern_iff_matchesWhole hsplit hletters hread rfl hmeaning hdepth hroom
  exact ⟨_, _, _, hsplit, hletters, hread, rfl, hmeaning, hdepth, hroom, hcompile, hwhole,
    (hmatches _).2 hwhole⟩

end FormRules.Pattern
