import FormRules.Proofs.Pattern.Nesting
import FormRules.Proofs.Text.Blank

/-!
# Modifier letters in any order

Modifiers only ever switch something on, so that what a run of them asks for is told by which
letters occur in it.  The first character that is no modifier is reported before the body is looked
at.  Blank characters in front of a pattern are passed over, and those behind it are modifiers that
change nothing.
-/

namespace FormRules.Pattern

open FormRules.Text

variable {p q body front letters letters' blanks before after : List Char}
  {c : Char}

/-! ### What letters ask for -/

/-- The flags that a run of modifier letters switches on. -/
def Flags.ofLetters (letters : List Char) : Flags where
  caseInsensitive := letters.contains 'i'
  multiLine := letters.contains 'm'
  dotMatchesLineFeed := letters.contains 's'
  swapGreed := letters.contains 'U'

/-- The flags with those of another set switched on as well. -/
def Flags.join (flags more : Flags) : Flags :=
  { flags with
    caseInsensitive := flags.caseInsensitive || more.caseInsensitive
    multiLine := flags.multiLine || more.multiLine
    dotMatchesLineFeed := flags.dotMatchesLineFeed || more.dotMatchesLineFeed
    swapGreed := flags.swapGreed || more.swapGreed }

/-- Whether a character may stand among the modifiers. -/
def isModifier (c : Char) : Bool := "imsxUuDA".toList.contains c || isBlank c

def firstStranger? (letters : List Char) : Option Char := letters.find? fun c => !isModifier c

/-- Of the letters that change something the same occur in both texts. -/
def AskTheSame (letters letters' : List Char) : Prop :=
  ∀ c ∈ "imsxU".toList, c ∈ letters ↔ c ∈ letters'

namespace Modifiers

def join (modifiers more : Modifiers) : Modifiers :=
  ⟨modifiers.flags.join more.flags, modifiers.verbose || more.verbose⟩

/-- What the letters that occur in a text ask for. -/
def ofLetters (letters : List Char) : Modifiers := ⟨Flags.ofLetters letters, letters.contains 'x'⟩

theorem join_nil (modifiers : Modifiers) : modifiers.join (ofLetters []) = modifiers := by
  simp [join, ofLetters, Flags.join, Flags.ofLetters]

theorem empty_join (letters : List Char) :
    ({} : Modifiers).join (ofLetters letters) = ofLetters letters := by
  simp [join, ofLetters, Flags.join, Flags.ofLetters]

theorem join_cons (modifiers : Modifiers) (c : Char) (letters : List Char) :
    (modifiers.join (ofLetters [c])).join (ofLetters letters) =
      modifiers.join (ofLetters (c :: letters)) := by
  simp [join, ofLetters, Flags.join, Flags.ofLetters, Bool.or_assoc]

theorem ofLetters_blank (hc : isBlank c = true) : ofLetters [c] = ofLetters [] := by
  have hne (d : Char) (hd : isBlank d = false) : d ≠ c := by
    intro h
    rw [h, hc] at hd
    exact Bool.noConfusion hd
  simp [ofLetters, Flags.ofLetters, hne 'i' rfl, hne 'm' rfl, hne 's' rfl, hne 'x' rfl, hne 'U' rfl]

theorem add?_letter (hc : c ∈ "imsxUuDA".toList) (modifiers : Modifiers) :
    modifiers.add? c = some (modifiers.join (ofLetters [c])) := by
  have hcases : c = 'i' ∨ c = 'm' ∨ c = 's' ∨ c = 'x' ∨ c = 'U' ∨ c = 'u' ∨ c = 'D' ∨ c = 'A' := by
    simpa using hc
  unfold add?
  rcases hcases with rfl | rfl | rfl | rfl | rfl | rfl | rfl | rfl <;>
    simp [join, ofLetters, Flags.join, Flags.ofLetters]

theorem add?_other (hc : c ∉ "imsxUuDA".toList) (modifiers : Modifiers) :
    modifiers.add? c = if isBlank c then some modifiers else none := by
  unfold add?
  split
  case h_9 => rfl
  all_goals exact absurd (by decide) hc

/-- One character switches on what it asks for. -/
theorem add?_eq (modifiers : Modifiers) (c : Char) :
    modifiers.add? c =
      if isModifier c then some (modifiers.join (ofLetters [c])) else none := by
  by_cases hletter : c ∈ "imsxUuDA".toList
  · have hmodifier : isModifier c = true := by
      rw [isModifier, List.contains_iff_mem.2 hletter, Bool.true_or]
    rw [add?_letter hletter, if_pos hmodifier]
  · have hmodifier : isModifier c = isBlank c := by
      rw [isModifier, Bool.eq_false_iff.2 (mt List.contains_iff_mem.1 hletter), Bool.false_or]
    rw [add?_other hletter, hmodifier]
    split
    · rename_i hblank
      rw [ofLetters_blank hblank, join_nil]
    · rfl

theorem read?_eq (modifiers : Modifiers) (letters : List Char) :
    modifiers.read? letters = match firstStranger? letters with
      | some c => .error (.unknownModifier c)
      | none => .ok (modifiers.join (ofLetters letters)) := by
  induction letters generalizing modifiers with
  | nil =>
    rw [join_nil]
    rfl
  | cons c letters ih =>
    rw [read?, add?_eq, firstStranger?, List.find?_cons]
    cases isModifier c with
    | false => rfl
    | true =>
      simp only [if_true, Bool.not_true]
      rw [ih, join_cons, firstStranger?]

/-- A run without a stranger is read as what its letters ask for. -/
theorem read?_of_modifiers (h : firstStranger? letters = none) :
    read? {} letters = .ok (ofLetters letters) := by
  rw [read?_eq, h, empty_join]

theorem read?_of_stranger (h : firstStranger? letters = some c) (modifiers : Modifiers) :
    modifiers.read? letters = .error (.unknownModifier c) := by
  rw [read?_eq, h]

theorem ofLetters_congr (h : AskTheSame letters letters') :
    ofLetters letters = ofLetters letters' := by
  have hcontains (c : Char) (hc : c ∈ "imsxU".toList) :
      letters.contains c = letters'.contains c := by
    rw [Bool.eq_iff_iff, List.contains_iff_mem, List.contains_iff_mem]
    exact h c hc
  simp only [ofLetters, Flags.ofLetters, hcontains 'i' (by simp), hcontains 'm' (by simp),
    hcontains 's' (by simp), hcontains 'x' (by simp), hcontains 'U' (by simp)]

end Modifiers

/-! ### Blank characters among modifiers -/

theorem firstStranger?_append_of_blank (h : AllBlank blanks) (letters : List Char) :
    firstStranger? (letters ++ blanks) = firstStranger? letters := by
  have hblanks : firstStranger? blanks = none := by
    refine List.find?_eq_none.2 fun c hc => ?_
    rw [isModifier, h c hc, Bool.or_true]
    exact Bool.false_ne_true
  rw [firstStranger?, List.find?_append, ← firstStranger?, ← firstStranger?, hblanks,
    Option.or_none]

theorem askTheSame_append_of_blank (h : AllBlank blanks) (letters : List Char) :
    AskTheSame letters (letters ++ blanks) := by
  intro c hc
  have hsolid : isBlank c = false := by
    have hcases : c = 'i' ∨ c = 'm' ∨ c = 's' ∨ c = 'x' ∨ c = 'U' := by simpa using hc
    rcases hcases with rfl | rfl | rfl | rfl | rfl <;> rfl
  rw [List.mem_append, or_iff_left]
  intro hmem
  rw [h c hmem] at hsolid
  exact Bool.noConfusion hsolid

/-! ### Where a pattern ends -/

namespace Delimited

/-- A text that can be cut is blank characters, the opening delimiter, the body, the closing
delimiter and the modifiers. -/
theorem split?_eq_ok_iff_written : split? p = .ok (body, letters) ↔
    ∃ blanks opening, AllBlank blanks ∧ CanOpen opening ∧ IsBody opening body ∧
      p = blanks ++ opening :: (body ++ closing opening :: letters) := by
  rw [split?_eq_ok_iff]
  constructor
  · intro h
    obtain ⟨opening, hcut⟩ := h
    refine ⟨p.takeWhile isBlank, opening, fun c hc => List.mem_takeWhile_imp hc, hcut.canOpen,
      hcut.isBody, ?_⟩
    rw [← hcut.text, trimStart, List.takeWhile_append_dropWhile]
  · intro h
    obtain ⟨blanks, opening, hblanks, hopen, hbody, hp⟩ := h
    refine ⟨opening, ?_, hopen, hbody⟩
    rw [hp, trimStart_append_of_blank hblanks, trimStart_cons, hopen.notBlank,
      if_neg Bool.false_ne_true]

theorem split?_with_letters (h : split? (front ++ letters) = .ok (body, letters))
    (hblanks : AllBlank blanks) (letters' : List Char) :
    split? (blanks ++ front ++ letters') = .ok (body, letters') := by
  obtain ⟨lead, opening, hlead, hopen, hbody, htext⟩ := split?_eq_ok_iff_written.1 h
  have hfront : front = lead ++ opening :: (body ++ [closing opening]) := by
    have hend : front ++ letters = (lead ++ opening :: (body ++ [closing opening])) ++ letters := by
      rw [htext]
      simp
    exact List.append_cancel_right hend
  refine split?_eq_ok_iff_written.2 ⟨blanks ++ lead, opening, ?_, hopen, hbody, ?_⟩
  · intro c hc
    exact (List.mem_append.1 hc).elim (hblanks c) (hlead c)
  · rw [hfront]
    simp

theorem exists_front (h : split? p = .ok (body, letters)) : ∃ front, p = front ++ letters := by
  obtain ⟨lead, opening, -, -, -, htext⟩ := split?_eq_ok_iff_written.1 h
  refine ⟨lead ++ opening :: (body ++ [closing opening]), ?_⟩
  rw [htext]
  simp

end Delimited

/-! ### Patterns -/

theorem compile_of_stranger (hsplit : Delimited.split? p = .ok (body, letters))
    (h : firstStranger? letters = some c) : compile p = .error (.unknownModifier c) := by
  simp only [compile, hsplit, Modifiers.read?_of_stranger h]

theorem compile_congr (hp : Delimited.split? p = .ok (body, letters))
    (hq : Delimited.split? q = .ok (body, letters')) (hletters : firstStranger? letters = none)
    (hletters' : firstStranger? letters' = none) (h : AskTheSame letters letters') :
    compile q = compile p := by
  simp only [compile, hp, hq, Modifiers.read?_of_modifiers hletters,
    Modifiers.read?_of_modifiers hletters', Modifiers.ofLetters_congr h]

theorem compile_with_letters (hp : Delimited.split? (front ++ letters) = .ok (body, letters))
    (hletters : firstStranger? letters = none) (hletters' : firstStranger? letters' = none)
    (h : AskTheSame letters letters') : compile (front ++ letters') = compile (front ++ letters) :=
  compile_congr hp (Delimited.split?_with_letters hp .nil letters') hletters hletters' h

theorem compile_surrounded (hp : Delimited.split? p = .ok (body, letters))
    (hbefore : AllBlank before) (hafter : AllBlank after) :
    compile (before ++ p ++ after) = compile p := by
  obtain ⟨front, hfront⟩ := Delimited.exists_front hp
  subst hfront
  have hsplit := Delimited.split?_with_letters hp hbefore (letters ++ after)
  rw [← List.append_assoc, List.append_assoc before] at hsplit
  have hstranger := firstStranger?_append_of_blank hafter letters
  cases hletters : firstStranger? letters with
  | some c =>
    rw [compile_of_stranger hp hletters, compile_of_stranger hsplit (hstranger.trans hletters)]
  | none =>
    -- the blank characters behind the pattern have become modifiers
    exact compile_congr hp hsplit hletters (hstranger.trans hletters)
      (askTheSame_append_of_blank hafter letters)

/-- What a pattern compiles to is told by its body and by which modifiers occur, whatever their
order and number, unless there is a stranger among them, of which the first is reported.  Blank
characters around a pattern change nothing. -/
theorem compile_modifiers (hp : Delimited.split? p = .ok (body, letters)) :
    (firstStranger? letters = none →
      (∀ q letters', Delimited.split? q = .ok (body, letters') → firstStranger? letters' = none →
        AskTheSame letters letters' → compile q = compile p) ∧
      ∀ front letters', p = front ++ letters → firstStranger? letters' = none →
        AskTheSame letters letters' → compile (front ++ letters') = compile p ∧
          ∀ s, matchesPattern (front ++ letters') s = matchesPattern p s) ∧
    (∀ c, firstStranger? letters = some c → compile p = .error (.unknownModifier c)) ∧
    ∀ before after, AllBlank before → AllBlank after →
      compile (before ++ p ++ after) = compile p ∧
        ∀ s, matchesPattern (before ++ p ++ after) s = matchesPattern p s := by
  refine ⟨fun hletters => ⟨?_, ?_⟩, fun c => compile_of_stranger hp, ?_⟩
  · intro q letters' hq hletters' hsame
    exact compile_congr hp hq hletters hletters' hsame
  · intro front letters' hfront hletters' hsame
    subst hfront
    have hcompile := compile_with_letters hp hletters hletters' hsame
    exact ⟨hcompile, fun s => by rw [matchesPattern, hcompile, matchesPattern]⟩
  · intro before after hbefore hafter
    have hcompile := compile_surrounded hp hbefore hafter
    exact ⟨hcompile, fun s => by rw [matchesPattern, hcompile, matchesPattern]⟩

/-- Modifiers in another order, repeated and padded, and a stranger before a body that is no
pattern. -/
theorem compile_modifiers_shuffled :
    Delimited.split? "/a b/xi".toList = .ok ("a b".toList, "xi".toList) ∧
      compile "/a b/i uxAi".toList = compile "/a b/xi".toList ∧
      compile " \t/a b/xi\n".toList = compile "/a b/xi".toList ∧
      Delimited.split? "/(/xex".toList = .ok ("(".toList, "xex".toList) ∧
      compile "/(/xex".toList = .error (.unknownModifier 'e') := by
  have hp : Delimited.split? "/a b/xi".toList = .ok ("a b".toList, "xi".toList) := rfl
  have hstranger : Delimited.split? "/(/xex".toList = .ok ("(".toList, "xex".toList) := rfl
  obtain ⟨hletters, -, hblank⟩ := compile_modifiers hp
  obtain ⟨-, hreplace⟩ := hletters (by decide)
  have hsame : AskTheSame "xi".toList "i uxAi".toList := by
    intro c hc
    have hcases : c = 'i' ∨ c = 'm' ∨ c = 's' ∨ c = 'x' ∨ c = 'U' := by simpa using hc
    rcases hcases with rfl | rfl | rfl | rfl | rfl <;> simp
  have hbefore : AllBlank " \t".toList := by
    intro c hc
    have hcases : c = ' ' ∨ c = '\t' := by simpa using hc
    rcases hcases with rfl | rfl <;> rfl
  have hafter : AllBlank "\n".toList := by
    intro c hc
    rw [List.mem_singleton.1 hc]
    rfl
  refine ⟨hp, (hreplace "/a b/".toList "i uxAi".toList rfl (by decide) hsame).1,
    (hblank " \t".toList "\n".toList hbefore hafter).1, hstranger,
    (compile_modifiers hstranger).2.1 'e' rfl⟩

end FormRules.Pattern
