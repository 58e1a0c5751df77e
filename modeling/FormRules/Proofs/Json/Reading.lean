import FormRules.Json.Basic
import Mathlib.Data.Char
import Mathlib.Data.List.Forall2

/-!
# Texts are read as they are written

The text of a JSON value without gaps is read back as a tree.  A string gives back the code units of
its characters, whatever had to be escaped.  `IsReadAs` says which tree the text of a value is read
as, and there is one lemma on it for each way of putting values together.
-/

namespace FormRules

open FormRules.Text

/-! ### Strings -/

namespace CodeUnits

/-- The code units of a text in which no pairs are split. -/
def ofText (text : String) : List Nat := text.toList.map Char.toNat

/-- The code of a character is neither half of a pair. -/
theorem toNat_lt_or_gt (c : Char) : c.toNat < 0xD800 ∨ 0xDFFF < c.toNat := by
  rcases c.valid with h | h
  · exact Or.inl h
  · exact Or.inr h.1

theorem isHigh_toNat (c : Char) : isHigh c.toNat = false := by
  have hcode := toNat_lt_or_gt c
  simp only [isHigh, Bool.and_eq_false_iff, decide_eq_false_iff_not]
  omega

theorem isLow_toNat (c : Char) : isLow c.toNat = false := by
  have hcode := toNat_lt_or_gt c
  simp only [isLow, Bool.and_eq_false_iff, decide_eq_false_iff_not]
  omega

theorem toChars?_map_toNat (s : List Char) : toChars? (s.map Char.toNat) = some s := by
  induction s with
  | nil => rfl
  | cons c s ih =>
    have hstep : toChars? ((c :: s).map Char.toNat) =
        (toChars? (s.map Char.toNat)).map (Char.ofNat c.toNat :: ·) := by
      rw [List.map_cons, toChars?.eq_def]
      simp only [isHigh_toNat, isLow_toNat, Bool.false_eq_true, if_false]
    rw [hstep, ih, Char.ofNat_toNat, Option.map_some]

theorem toText?_ofText (text : String) : toText? (ofText text) = some text := by
  rw [toText?, ofText, toChars?_map_toNat, Option.map_some, String.ofList_toList]

end CodeUnits

namespace JsonSyntax

variable {rest : List Char}

theorem hexDigit?_digitChar {n : Nat} (h : n < 16) : hexDigit? (Nat.digitChar n) = some n := by
  have hall : ∀ n < 16, hexDigit? (Nat.digitChar n) = some n := by decide
  exact hall n h

theorem unit?_digitChar {n : Nat} (h : n < 256) :
    unit? '0' '0' (Nat.digitChar (n / 16)) (Nat.digitChar (n % 16)) = some n := by
  have hhigh : hexDigit? (Nat.digitChar (n / 16)) = some (n / 16) :=
    hexDigit?_digitChar (by omega)
  have hlow : hexDigit? (Nat.digitChar (n % 16)) = some (n % 16) :=
    hexDigit?_digitChar (by omega)
  have hzero : hexDigit? '0' = some 0 := rfl
  have hsum : ((0 * 16 + 0) * 16 + n / 16) * 16 + n % 16 = n := by omega
  simp only [unit?, hzero, hhigh, hlow, Option.bind_eq_bind, Option.bind_some, Option.pure_def,
    hsum]

theorem readUnits_unicode {a b c d : Char} {unit : Nat} (h : unit? a b c d = some unit) :
    readUnits ('\\' :: 'u' :: a :: b :: c :: d :: rest) =
      (readUnits rest).map fun (units, rest) => (unit :: units, rest) := by
  rw [readUnits.eq_def]
  simp only [Char.reduceEq, if_true, if_false, h]
  cases readUnits rest <;> rfl

theorem readUnits_letter {e c : Char} (he : e ≠ 'u') (h : unescape? e = some c) :
    readUnits ('\\' :: e :: rest) =
      (readUnits rest).map fun (units, rest) => (c.toNat :: units, rest) := by
  rw [readUnits.eq_def]
  simp only [Char.reduceEq, if_true, if_false, he, h]
  cases readUnits rest <;> rfl

theorem readUnits_plain {c : Char} (hquote : c ≠ '"') (hslash : c ≠ '\\')
    (hcontrol : ¬c.toNat < 0x20) :
    readUnits (c :: rest) =
      (readUnits rest).map fun (units, rest) => (c.toNat :: units, rest) := by
  rw [readUnits.eq_def]
  simp only [hquote, hslash, hcontrol, if_false]
  cases readUnits rest <;> rfl

/-- Whatever way a character is written in, it is read back. -/
theorem readUnits_escape (c : Char) :
    readUnits (Json.escape c ++ rest) =
      (readUnits rest).map fun (units, rest) => (c.toNat :: units, rest) := by
  unfold Json.escape
  split
  · exact readUnits_letter (by decide) rfl
  · exact readUnits_letter (by decide) rfl
  · exact readUnits_letter (by decide) rfl
  · exact readUnits_letter (by decide) rfl
  · exact readUnits_letter (by decide) rfl
  · exact readUnits_letter (by decide) rfl
  · exact readUnits_letter (by decide) rfl
  · rename_i hquote hslash _ _ _ _ _
    split
    · rename_i hcontrol
      exact readUnits_unicode (unit?_digitChar (by omega))
    · rename_i hcontrol
      exact readUnits_plain hquote hslash hcontrol

theorem readUnits_escaped (s : List Char) :
    readUnits (s.flatMap Json.escape ++ '"' :: rest) = some (s.map Char.toNat, rest) := by
  induction s with
  | nil =>
    rw [List.flatMap_nil, List.nil_append, readUnits.eq_def]
    rfl
  | cons c s ih =>
    rw [List.flatMap_cons, List.append_assoc, readUnits_escape, ih]
    rfl

theorem readUnits_quote (text : String) :
    ∃ s, Json.quote text = '"' :: s ∧
      ∀ rest, readUnits (s ++ rest) = some (CodeUnits.ofText text, rest) := by
  refine ⟨text.toList.flatMap Json.escape ++ ['"'], rfl, ?_⟩
  intro rest
  rw [List.append_assoc]
  exact readUnits_escaped text.toList

theorem skipGap_cons {c : Char} (h : isGap c = false) : skipGap (c :: rest) = c :: rest := by
  rw [skipGap, List.dropWhile_cons, h, if_neg Bool.false_ne_true]

theorem readName_quote (name : String) :
    readName (Json.quote name ++ ':' :: rest) = some (CodeUnits.ofText name, rest) := by
  obtain ⟨s, hquote, hread⟩ := readUnits_quote name
  rw [hquote, List.cons_append, readName, skipGap_cons rfl]
  simp only [if_true, hread, skipGap_cons (show isGap ':' = false from rfl)]

end JsonSyntax

namespace Json

open JsonSyntax

/-! ### Values -/

/-- The text of a value is read as a tree, whatever follows it, if the steps are at least twice as
many as its characters. -/
structure IsReadAs (json : Json) (tree : JsonSyntax) : Prop where
  starts : ∃ c s, json.compactChars = c :: s ∧ isGap c = false ∧ c ≠ ']'
  reads : ∀ fuel rest, 2 * json.compactChars.length ≤ fuel →
    readValue fuel (json.compactChars ++ rest) = some (tree, rest)

variable {items : List Json} {trees : List JsonSyntax} {members : List (String × Json)}
  {memberTrees : List (List Nat × JsonSyntax)} {json : Json} {tree : JsonSyntax}

theorem isReadAs_string (text : String) :
    IsReadAs (.string text) (.string (CodeUnits.ofText text)) := by
  obtain ⟨s, hquote, hread⟩ := readUnits_quote text
  have hchars : compactChars (.string text) = '"' :: s := by rw [compactChars, hquote]
  constructor
  · exact ⟨'"', s, hchars, rfl, by decide⟩
  · intro fuel rest hfuel
    rw [hchars] at hfuel ⊢
    cases fuel with
    | zero => cases hfuel
    | succ fuel =>
      rw [List.cons_append, readValue, skipGap_cons rfl]
      simp only [if_true, hread, Option.map_some]

theorem starts_compactItems (h : List.Forall₂ IsReadAs items trees) (hne : items ≠ []) :
    ∃ c s, compactItems items = c :: s ∧ isGap c = false ∧ c ≠ ']' := by
  cases h with
  | nil => exact absurd rfl hne
  | @cons item tree items trees hitem htail =>
    obtain ⟨c, s, hchars, hgap, hclose⟩ := hitem.starts
    cases items with
    | nil => exact ⟨c, s ++ [']'], by rw [compactItems, hchars, List.cons_append], hgap, hclose⟩
    | cons next items =>
      exact ⟨c, _, by rw [compactItems, hchars, List.cons_append], hgap, hclose⟩

/-- Items are read one by one: each takes one step beside its own, and at least one character. -/
theorem readItems_compactItems (h : List.Forall₂ IsReadAs items trees) (hne : items ≠ [])
    (fuel : Nat) (hfuel : 2 * (compactItems items).length ≤ fuel) (rest : List Char) :
    readItems fuel (compactItems items ++ rest) = some (trees, rest) := by
  -- the last item stands before the bracket, every other one before a comma
  induction h generalizing fuel with
  | nil => exact absurd rfl hne
  | @cons item tree items trees hitem htail ih =>
    cases htail with
    | nil =>
      simp only [compactItems, List.length_append, List.length_singleton] at hfuel
      cases fuel with
      | zero => omega
      | succ fuel =>
        have hread := hitem.reads fuel (']' :: rest) (by omega)
        rw [compactItems, List.append_assoc, List.singleton_append, readItems, hread]
        simp only [skipGap_cons (show isGap ']' = false from rfl), if_true]
    | @cons next nextTree items trees hnext htail =>
      simp only [compactItems, List.length_append, List.length_cons] at hfuel
      cases fuel with
      | zero => omega
      | succ fuel =>
        have hread := hitem.reads fuel (',' :: (compactItems (next :: items) ++ rest)) (by omega)
        have hitems := ih (List.cons_ne_nil _ _) fuel (by omega)
        rw [compactItems, List.append_assoc, List.cons_append, readItems, hread]
        simp only [skipGap_cons (show isGap ',' = false from rfl), Char.reduceEq, if_true, if_false,
          hitems, Option.map_some]

theorem isReadAs_array (h : List.Forall₂ IsReadAs items trees) :
    IsReadAs (.array items) (.array trees) := by
  constructor
  · exact ⟨'[', compactItems items, by rw [compactChars], rfl, by decide⟩
  · intro fuel rest hfuel
    simp only [compactChars, List.length_cons] at hfuel
    cases fuel with
    | zero => omega
    | succ fuel =>
      rw [compactChars, List.cons_append, readValue, skipGap_cons rfl]
      simp only [Char.reduceEq, if_true, if_false]
      by_cases hne : items = []
      · subst hne
        cases h
        rfl
      · obtain ⟨c, s, hchars, hgap, hclose⟩ := starts_compactItems h hne
        have hitems := readItems_compactItems h hne fuel (by omega) rest
        rw [hchars, List.cons_append] at hitems ⊢
        simp only [skipGap_cons hgap, hclose, if_false, hitems, Option.map_some]

/-- A member is read as the code units of its name with a tree for its value. -/
def IsMemberReadAs (member : String × Json) (tree : List Nat × JsonSyntax) : Prop :=
  tree.1 = CodeUnits.ofText member.1 ∧ IsReadAs member.2 tree.2

theorem starts_compactMembers (hne : members ≠ []) :
    ∃ s, compactMembers members = '"' :: s := by
  cases members with
  | nil => exact absurd rfl hne
  | cons member members =>
    cases members with
    | nil => exact ⟨_, rfl⟩
    | cons next members => exact ⟨_, rfl⟩

/-- Members are read one by one, like items. -/
theorem readMembers_compactMembers (h : List.Forall₂ IsMemberReadAs members memberTrees)
    (hne : members ≠ []) (fuel : Nat) (hfuel : 2 * (compactMembers members).length ≤ fuel)
    (rest : List Char) :
    readMembers fuel (compactMembers members ++ rest) = some (memberTrees, rest) := by
  induction h generalizing fuel with
  | nil => exact absurd rfl hne
  | @cons member tree members trees hmember htail ih =>
    obtain ⟨name, json⟩ := member
    obtain ⟨units, tree⟩ := tree
    obtain ⟨hname, hjson⟩ := hmember
    simp only at hname hjson
    subst hname
    cases htail with
    | nil =>
      simp only [compactMembers, List.length_append, List.length_cons] at hfuel
      cases fuel with
      | zero => omega
      | succ fuel =>
        have hread := hjson.reads fuel ('}' :: rest) (by omega)
        have htext : compactMembers [(name, json)] ++ rest =
            quote name ++ ':' :: (json.compactChars ++ '}' :: rest) := by
          simp only [compactMembers, List.append_assoc, List.cons_append, List.nil_append]
        rw [htext, readMembers, readName_quote]
        simp only [hread, skipGap_cons (show isGap '}' = false from rfl), if_true]
    | @cons next nextTree members trees hnext htail =>
      simp only [compactMembers, List.length_append, List.length_cons] at hfuel
      cases fuel with
      | zero => omega
      | succ fuel =>
        have hread := hjson.reads fuel (',' :: (compactMembers (next :: members) ++ rest))
          (by omega)
        have hmembers := ih (List.cons_ne_nil _ _) fuel (by omega)
        have htext : compactMembers ((name, json) :: next :: members) ++ rest =
            quote name ++
              ':' :: (json.compactChars ++ ',' :: (compactMembers (next :: members) ++ rest)) := by
          simp only [compactMembers, List.append_assoc, List.cons_append]
        rw [htext, readMembers, readName_quote]
        simp only [hread, skipGap_cons (show isGap ',' = false from rfl), Char.reduceEq, if_true,
          if_false, hmembers, Option.map_some]

theorem isReadAs_object (h : List.Forall₂ IsMemberReadAs members memberTrees) :
    IsReadAs (.object members) (.object memberTrees) := by
  constructor
  · exact ⟨'{', compactMembers members, by rw [compactChars], rfl, by decide⟩
  · intro fuel rest hfuel
    simp only [compactChars, List.length_cons] at hfuel
    cases fuel with
    | zero => omega
    | succ fuel =>
      rw [compactChars, List.cons_append, readValue, skipGap_cons rfl]
      simp only [Char.reduceEq, if_true, if_false]
      by_cases hne : members = []
      · subst hne
        cases h
        rfl
      · obtain ⟨s, hchars⟩ := starts_compactMembers hne
        have hmembers := readMembers_compactMembers h hne fuel (by omega) rest
        rw [hchars, List.cons_append] at hmembers ⊢
        simp only [skipGap_cons (show isGap '"' = false from rfl), Char.reduceEq, if_false,
          hmembers, Option.map_some]

/-- A whole text is read as the tree of its value. -/
theorem read?_compact (h : IsReadAs json tree) :
    JsonSyntax.read? json.compact.toList = some tree := by
  have hread := h.reads (2 * json.compactChars.length + 2) [] (by omega)
  rw [List.append_nil] at hread
  rw [compact, String.toList_ofList, JsonSyntax.read?, hread]
  rfl

end Json

end FormRules
