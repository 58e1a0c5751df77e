import FormRules.Proofs.Pattern.Whole

/-!
# Verbose mode

With the modifier `x` the closing text of a pattern is subject to what the body leaves open.  A
comment in the last line takes it along, and then there is no pattern, though the body is one; every
other body keeps its meaning between the anchors, whatever comments it has.

`regex` documents of `x` that comments are ignored; the closing text of `compile_pattern` is not
kept out of them.
-/

namespace FormRules.Pattern

variable {p body letters : List Char} {e : Expr} {r : Regex} {after : Flags}

/-- Whether a body takes the closing text along, so that the parenthesis that opens nothing is not
noticed behind it. -/
def swallowsEnd (body : List Char) : Bool := (Expr.read? true (body ++ ")\\z".toList)).isSome

theorem read_anchored_of_swallowsEnd (hread : Expr.read? true body = some e)
    (hend : swallowsEnd body = true) :
    HasLastHash body ∧ Expr.read? true (anchored body) = none := by
  rcases read_closed hread with ⟨hclosed, -⟩ | ⟨-, hhash, -, hanchored⟩
  · rw [swallowsEnd, hclosed] at hend
    cases hend
  · exact ⟨hhash, hanchored⟩

theorem read_anchored_of_not_swallowsEnd (hread : Expr.read? true body = some e)
    (hend : swallowsEnd body = false) :
    Expr.read? true (anchored body) =
      if e.anchored.depth .alone ≤ maxDepth then some e.anchored else none := by
  rcases read_closed hread with ⟨-, hanchored⟩ | ⟨-, -, hclosed, -⟩
  · exact hanchored
  · rw [swallowsEnd, hclosed] at hend
    cases hend

theorem read?_of_verbose (hletters : firstStranger? letters = none) (hx : 'x' ∈ letters) :
    Modifiers.read? {} letters = .ok ⟨Flags.ofLetters letters, true⟩ := by
  rw [Modifiers.read?_of_modifiers hletters, Modifiers.ofLetters, List.contains_iff_mem.2 hx]

/-- In verbose mode a body that is a pattern of its own matches, delimited, the subjects that it
matches as a whole, unless a comment in its last line takes the closing text along.  Then the
pattern is none. -/
theorem compile_verbose (hsplit : Delimited.split? p = .ok (body, letters))
    (hletters : firstStranger? letters = none) (hx : 'x' ∈ letters)
    (hread : Expr.read? true body = some e)
    (hmeaning : e.meaning (Flags.ofLetters letters) = some (r, after))
    (hdepth : e.anchored.depth .alone ≤ maxDepth) (hroom : r.anchored.fits = true) :
    (swallowsEnd body = false → compile p = .ok ⟨anchored body, r.anchored⟩ ∧
      ∀ s, matchesPattern p s = true ↔ r.MatchesWhole s) ∧
    (swallowsEnd body = true → HasLastHash body ∧ compile p = .error .malformed ∧
      ∀ s, matchesPattern p s = false) := by
  have hmodifiers := read?_of_verbose hletters hx
  constructor
  · intro hend
    have hanchored := read_anchored_of_not_swallowsEnd hread hend
    have hcompile : compile p = .ok ⟨anchored body, r.anchored⟩ := by
      rw [compile_of_anchored hsplit hmodifiers hanchored hmeaning, if_pos ⟨hdepth, hroom⟩]
    refine ⟨hcompile, fun s => ?_⟩
    rw [matchesPattern, hcompile]
    exact matchesWithin_anchored r s
  · intro hend
    obtain ⟨hhash, hanchored⟩ := read_anchored_of_swallowsEnd hread hend
    have hcompile : compile p = .error .malformed := by
      simp only [compile, hsplit, hmodifiers, regexOf?, hanchored]
    refine ⟨hhash, hcompile, fun s => ?_⟩
    rw [matchesPattern, hcompile]
    rfl

/-- A comment that a line feed ends, and a hash sign that begins none. -/
theorem compile_verbose_closed :
    ∃ e r after, Delimited.split? "/a # b\n \\#/sx".toList =
        .ok ("a # b\n \\#".toList, "sx".toList) ∧
      firstStranger? "sx".toList = none ∧ 'x' ∈ "sx".toList ∧
      Expr.read? true "a # b\n \\#".toList = some e ∧
      e.meaning (Flags.ofLetters "sx".toList) = some (r, after) ∧
      e.anchored.depth .alone ≤ maxDepth ∧ r.anchored.fits = true ∧
      swallowsEnd "a # b\n \\#".toList = false ∧
      compile "/a # b\n \\#/sx".toList = .ok ⟨anchored "a # b\n \\#".toList, r.anchored⟩ ∧
      r.MatchesWhole "a#".toList ∧ matchesPattern "/a # b\n \\#/sx".toList "a#".toList = true := by
  have hsplit : Delimited.split? "/a # b\n \\#/sx".toList =
      .ok ("a # b\n \\#".toList, "sx".toList) := rfl
  have hread : Expr.read? true "a # b\n \\#".toList =
      some (.seq (.literal 'a' false) (.literal '#' false)) := rfl
  have hmeaning : (Expr.seq (.literal 'a' false) (.literal '#' false)).meaning
      (Flags.ofLetters "sx".toList) =
        some (.seq (Regex.char 'a') (Regex.char '#'), Flags.ofLetters "sx".toList) := rfl
  have hdepth : (Expr.seq (.literal 'a' false) (.literal '#' false)).anchored.depth .alone ≤
      maxDepth := by
    decide
  have hroom : (Regex.seq (Regex.char 'a') (Regex.char '#')).anchored.fits = true := by
    decide +kernel
  have hend : swallowsEnd "a # b\n \\#".toList = false := by decide +kernel
  have hwhole : (Regex.seq (Regex.char 'a') (Regex.char '#')).MatchesWhole "a#".toList :=
    (Regex.matchesWhole_iff _ _).1 rfl
  obtain ⟨hkept, -⟩ := compile_verbose hsplit rfl (by simp) hread hmeaning hdepth hroom
  obtain ⟨hcompile, hmatches⟩ := hkept hend
  exact ⟨_, _, _, hsplit, rfl, by simp, hread, hmeaning, hdepth, hroom, hend, hcompile, hwhole,
    (hmatches _).2 hwhole⟩

/-- A comment without an end: the body matches the subject, and the pattern does not compile. -/
theorem compile_comment :
    ∃ e r after, Delimited.split? "/a#b/x".toList = .ok ("a#b".toList, "x".toList) ∧
      firstStranger? "x".toList = none ∧ 'x' ∈ "x".toList ∧
      Expr.read? true "a#b".toList = some e ∧
      e.meaning (Flags.ofLetters "x".toList) = some (r, after) ∧
      e.anchored.depth .alone ≤ maxDepth ∧ r.anchored.fits = true ∧ r.MatchesWhole "a".toList ∧
      compile "/a#b/x".toList = .error .malformed ∧
      matchesPattern "/a#b/x".toList "a".toList = false := by
  have hmeaning : (Expr.literal 'a' false).meaning (Flags.ofLetters "x".toList) =
      some (Regex.char 'a', Flags.ofLetters "x".toList) := rfl
  have hwhole : (Regex.char 'a').MatchesWhole "a".toList := (Regex.matchesWhole_iff _ _).1 rfl
  exact ⟨.literal 'a' false, _, _, rfl, rfl, by simp, rfl, hmeaning, by decide, by decide +kernel,
    hwhole, rfl, rfl⟩

/-- Where verbose mode is off a hash sign stands for itself, and in a set it begins a comment. -/
example : swallowsEnd "(?-x) a#b".toList = false ∧ swallowsEnd "[a#]\n]".toList = false ∧
    swallowsEnd "[a#]\n] # b".toList = true := by
  decide +kernel

end FormRules.Pattern
