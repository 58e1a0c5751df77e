import FormRules.Pattern.Meaning
import FormRules.Pattern.Reader
import FormRules.Pattern.Room.Shape
import FormRules.Pattern.Search
import FormRules.Text.Quoted

/-!
# Delimited patterns

A rule carries its pattern between delimiters, with modifier letters behind: `/^[a-z]+$/i`.
`Delimited.split?` cuts such a text, and `Pattern.compile` turns it into a pattern that has to
match a whole subject: the body stands in a group between the start and the end of the text.

Embeds `closing_delimiter` (`Delimited.closing`), `split_delimited` (`Delimited.split?`),
`compile_pattern` (`Pattern.compile`), `regex` (`Pattern.matchesPattern`) and `PatternError`
(`PatternFault`); specification, section 6.
-/

namespace FormRules.Pattern

open FormRules.Text

/-- Why a delimited text is no pattern. -/
inductive PatternFault
  /-- There is nothing but blank characters. -/
  | empty
  | unfitDelimiter (c : Char)
  /-- The closing delimiter is missing. -/
  | unclosed (c : Char)
  | unknownModifier (c : Char)
  /-- The body is no regular expression, or too large a one. -/
  | malformed
  deriving DecidableEq, Repr

/-- The wording of an error; what is wrong inside the body is not detailed. -/
def PatternFault.message : PatternFault → String
  | .empty => "Pattern is empty"
  | .unfitDelimiter c => "Invalid pattern delimiter: " ++ quoteChar c
  | .unclosed c => "No ending delimiter " ++ quoteChar c ++ " found"
  | .unknownModifier c => "Unknown pattern modifier: " ++ quoteChar c
  | .malformed => "Invalid pattern"

/-! ### Cutting at the delimiters -/

namespace Delimited

/-- The delimiter that closes what another opens: brackets in pairs, any other character itself. -/
def closing (opening : Char) : Char :=
  match opening with
  | '(' => ')'
  | '[' => ']'
  | '{' => '}'
  | '<' => '>'
  | other => other

/-- Whether a character may open a pattern. -/
def isDelimiter (c : Char) : Bool := !(isAlphanumeric c || c == '\\' || isBlank c)

/-- Reads up to the closing delimiter and gives the text before and after it.  A backslash takes
the next character along, and where the delimiters differ they nest. -/
def scanBody (opening close : Char) : (depth : Nat) → (escaped : Bool) → List Char →
    Option (List Char × List Char)
  | _, _, [] => none
  | depth, true, c :: rest =>
    (scanBody opening close depth false rest).map fun (body, after) => (c :: body, after)
  | depth, false, c :: rest =>
    if c = '\\' then
      (scanBody opening close depth true rest).map fun (body, after) => (c :: body, after)
    else if close ≠ opening ∧ c = opening then
      (scanBody opening close (depth + 1) false rest).map fun (body, after) => (c :: body, after)
    else if c = close then
      match depth with
      | 0 => some ([], rest)
      | depth + 1 =>
        (scanBody opening close depth false rest).map fun (body, after) => (c :: body, after)
    else (scanBody opening close depth false rest).map fun (body, after) => (c :: body, after)

/-- The body and the modifiers of a delimited text. -/
def split? (s : List Char) : Except PatternFault (List Char × List Char) :=
  match trimStart s with
  | [] => .error .empty
  | opening :: rest =>
    if isDelimiter opening then
      match scanBody opening (closing opening) 0 false rest with
      | some parts => .ok parts
      | none => .error (.unclosed (closing opening))
    else .error (.unfitDelimiter opening)

theorem closing_closing (c : Char) (h : closing c ≠ c) : closing (closing c) = closing c := by
  unfold closing at h ⊢
  split at h <;> first | rfl | exact absurd rfl h

/-- Nothing is lost where a body ends: the closing delimiter stands between body and rest. -/
theorem scanBody_append {opening close : Char} {depth : Nat} {escaped : Bool}
    {s body after : List Char} (h : scanBody opening close depth escaped s = some (body, after)) :
    s = body ++ close :: after := by
  induction s generalizing depth escaped body after with
  | nil => cases escaped <;> simp [scanBody] at h
  | cons c s ih =>
    have step : ∀ depth escaped, (scanBody opening close depth escaped s).map
        (fun (p : List Char × List Char) => (c :: p.1, p.2)) = some (body, after) →
        c :: s = body ++ close :: after := by
      intro depth escaped hm
      obtain ⟨⟨body', after'⟩, hs, heq⟩ := Option.map_eq_some_iff.1 hm
      obtain ⟨rfl, rfl⟩ := Prod.mk.inj heq
      rw [ih hs]
      rfl
    cases escaped with
    | true => exact step _ _ h
    | false =>
      unfold scanBody at h
      split at h
      · exact step _ _ h
      · split at h
        · exact step _ _ h
        · split at h
          · rename_i hc
            subst hc
            cases depth with
            | zero =>
              obtain ⟨rfl, rfl⟩ := Prod.mk.inj (Option.some.inj h)
              rfl
            | succ depth => exact step _ _ h
          · exact step _ _ h

end Delimited

/-! ### Modifiers -/

/-- What the modifier letters of a pattern ask for. -/
structure Modifiers where
  flags : Flags := {}
  verbose : Bool := false
  deriving DecidableEq, Repr

/-- The modifiers after one more character; `u`, `D`, `A` and blank characters change nothing. -/
def Modifiers.add? (modifiers : Modifiers) (c : Char) : Option Modifiers :=
  let flags := modifiers.flags
  match c with
  | 'i' => some { modifiers with flags := { flags with caseInsensitive := true } }
  | 'm' => some { modifiers with flags := { flags with multiLine := true } }
  | 's' => some { modifiers with flags := { flags with dotMatchesLineFeed := true } }
  | 'x' => some { modifiers with verbose := true }
  | 'U' => some { modifiers with flags := { flags with swapGreed := true } }
  | 'u' => some modifiers
  | 'D' => some modifiers
  | 'A' => some modifiers
  | c => if isBlank c then some modifiers else none

/-- The modifiers that a text of modifier letters asks for. -/
def Modifiers.read? (modifiers : Modifiers) : List Char → Except PatternFault Modifiers
  | [] => .ok modifiers
  | c :: rest => match modifiers.add? c with
    | some modifiers => modifiers.read? rest
    | none => .error (.unknownModifier c)

end FormRules.Pattern

namespace FormRules

open FormRules.Pattern

/-! ### Patterns -/

/-- A pattern that is ready to be matched. -/
structure Pattern where
  /-- The text of the pattern with the body between its anchors. -/
  source : List Char
  regex : Regex

namespace Pattern

/-- A body as a group between the start and the end of the subject. -/
def anchored (body : List Char) : List Char :=
  "\\A(?:".toList ++ body ++ ")\\z".toList

/-- The regular expression that a text means under given modifiers, if it is one and not too
large. -/
def regexOf? (modifiers : Modifiers) (source : List Char) : Option Regex :=
  match Expr.read? modifiers.verbose source with
  | none => none
  | some e => match e.meaning modifiers.flags with
    | some (r, _) => if r.fits then some r else none
    | none => none

/-- The pattern that a delimited text denotes. -/
def compile (s : List Char) : Except PatternFault Pattern :=
  match Delimited.split? s with
  | .error e => .error e
  | .ok (body, letters) => match Modifiers.read? {} letters with
    | .error e => .error e
    | .ok modifiers => match regexOf? modifiers (anchored body) with
      | some r => .ok ⟨anchored body, r⟩
      | none => .error .malformed

def isMatch (p : Pattern) (subject : List Char) : Bool := p.regex.matchesWithin subject

/-- The texts of the groups in the preferred match, the whole match first.  A subject without a
match is not searched. -/
def captures (p : Pattern) (subject : List Char) : Option (List (Option (List Char))) :=
  if p.isMatch subject then
    (p.regex.search subject).map fun spans => spans.map fun span => span.map fun s => s.of subject
  else none

/-- Whether a subject matches what a delimited text denotes; what is no pattern matches nothing. -/
def isMatchOf (compiled : Except PatternFault Pattern) (subject : List Char) : Bool :=
  match compiled with
  | .ok p => p.isMatch subject
  | .error _ => false

def matchesPattern (pattern subject : List Char) : Bool := isMatchOf (compile pattern) subject

end Pattern

end FormRules
