import FormRules.Pattern.Regex

/-!
# Patterns as written

`Expr` is the structure of a pattern's text before its flags are applied: what a dot, a letter or
a word boundary means depends on the flags in force where it stands.  `Expr.depth` measures how
deeply a pattern is nested.

Embeds the syntax trees of the `regex` library, with its nesting limit measured by `depth`.
-/

namespace FormRules.Pattern

/-- A flag that a pattern may switch on and off. -/
inductive Flag
  | caseInsensitive
  | multiLine
  | dotMatchesLineFeed
  | swapGreed
  | unicode
  /-- A carriage return counts as a line break too. -/
  | carriageReturn
  /-- Blank characters and comments are passed over. -/
  | verbose
  deriving DecidableEq, Repr

/-- Flags with the values they are set to. -/
abbrev FlagChanges := List (Flag × Bool)

/-- The value a list of changes gives to a flag, the last one if there are several. -/
def FlagChanges.value? (changes : FlagChanges) (flag : Flag) : Option Bool :=
  (changes.reverse.find? fun change => change.1 == flag).map (·.2)

/-- The positions that a pattern can ask for. -/
inductive Assertion
  | lineStart
  | lineEnd
  | textStart
  | textEnd
  | boundary
  | notBoundary
  | wordStart
  | wordEnd
  | wordStartHalf
  | wordEndHalf
  deriving DecidableEq, Repr

/-- The classes written as a backslash with a letter. -/
inductive Shorthand
  | digit
  | blank
  | word
  deriving DecidableEq, Repr

/-- The classes written as a name between colons. -/
inductive NamedClass
  | alnum
  | alpha
  | ascii
  | blank
  | cntrl
  | digit
  | graph
  | lower
  | print
  | punct
  | space
  | upper
  | word
  | xdigit
  deriving DecidableEq, Repr

inductive PropertyName
  | plain (name : List Char)
  | valued (name value : List Char)
  deriving DecidableEq, Repr

/-- The operations between two parts of a bracketed set. -/
inductive SetOperation
  | intersection
  | difference
  | symmetricDifference
  deriving DecidableEq, Repr

/-- What stands between the brackets of a set. -/
inductive SetExpr
  | empty
  | range (first last : Char)
  | named (kind : NamedClass) (negated : Bool)
  | shorthand (kind : Shorthand) (negated : Bool)
  | property (name : PropertyName) (negated : Bool)
  /-- A set in brackets of its own. -/
  | nested (negated : Bool) (inner : SetExpr)
  | union (a b : SetExpr)
  | combine (operation : SetOperation) (a b : SetExpr)
  deriving Repr

/-- A pattern as written. -/
inductive Expr
  | empty
  /-- A change of flags for what follows. -/
  | setFlags (changes : FlagChanges)
  /-- A character; `byte` tells whether it was written as two hexadecimal digits. -/
  | literal (c : Char) (byte : Bool)
  | dot
  | assertion (a : Assertion)
  | shorthand (kind : Shorthand) (negated : Bool)
  | property (name : PropertyName) (negated : Bool)
  | set (negated : Bool) (inner : SetExpr)
  /-- A group that records what it matched. -/
  | capture (index : Nat) (e : Expr)
  /-- A group that only bounds its flags. -/
  | scope (changes : FlagChanges) (e : Expr)
  | repeated (e : Expr) (min : Nat) (max : Option Nat) (greedy : Bool)
  | seq (a b : Expr)
  | alt (a b : Expr)
  deriving Repr

namespace SetExpr

/-- Items side by side in a set. -/
def ofItems : List SetExpr → SetExpr
  | [] => .empty
  | [item] => item
  | item :: rest => .union item (ofItems rest)

/-- The nesting depth; `inUnion` tells that the enclosing union has been counted. -/
def depth : SetExpr → (inUnion : Bool) → Nat
  | empty, _ => 0
  | range _ _, _ => 0
  | named _ _, _ => 0
  | shorthand _ _, _ => 0
  | property _ _, _ => 0
  | nested _ inner, _ => 1 + inner.depth false
  | union a b, inUnion => (if inUnion then 0 else 1) + Nat.max (a.depth false) (b.depth true)
  | combine _ a b, _ => 1 + Nat.max (a.depth false) (b.depth false)

end SetExpr

namespace Expr

/-- Expressions one after the other. -/
def ofItems : List Expr → Expr
  | [] => .empty
  | [item] => item
  | item :: rest => .seq item (ofItems rest)

/-- Alternatives in the order of preference. -/
def ofBranches : List Expr → Expr
  | [] => .empty
  | [branch] => branch
  | branch :: rest => .alt branch (ofBranches rest)

/-- Where an expression stands, as far as its nesting depth depends on it. -/
inductive Place
  | alone
  | inSequence
  | inAlternatives
  deriving DecidableEq

/-- The nesting depth: sets, repetitions, groups, sequences and alternatives count one each. -/
def depth : Expr → Place → Nat
  | empty, _ => 0
  | setFlags _, _ => 0
  | literal _ _, _ => 0
  | dot, _ => 0
  | assertion _, _ => 0
  | shorthand _ _, _ => 0
  | property _ _, _ => 0
  | set _ inner, _ => 1 + inner.depth false
  | capture _ e, _ => 1 + e.depth .alone
  | scope _ e, _ => 1 + e.depth .alone
  | repeated e _ _ _, _ => 1 + e.depth .alone
  | seq a b, place =>
    (if place = .inSequence then 0 else 1) + Nat.max (a.depth .alone) (b.depth .inSequence)
  | alt a b, place =>
    (if place = .inAlternatives then 0 else 1) + Nat.max (a.depth .alone) (b.depth .inAlternatives)

/-- Whether a repetition may follow. -/
def isRepeatable : Expr → Bool
  | empty => false
  | setFlags _ => false
  | _ => true

end Expr

end FormRules.Pattern
