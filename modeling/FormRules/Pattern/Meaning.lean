import FormRules.Pattern.Expr
import FormRules.Text.NamedProperty

/-!
# What a pattern means under its flags

`Expr.meaning` turns a written pattern into a regular expression.  A change of flags lasts until
the end of the group it stands in.  With the `unicode` flag off, classes know ASCII only, and what
could match part of a character, such as a dot or a negated set, has no meaning.

Embeds the translation of the `regex` library from a syntax tree to what it matches.
-/

namespace FormRules.Pattern

open FormRules.Text

/-- The flags in force. -/
structure Flags where
  caseInsensitive : Bool := false
  multiLine : Bool := false
  dotMatchesLineFeed : Bool := false
  swapGreed : Bool := false
  unicode : Bool := true
  carriageReturn : Bool := false
  deriving DecidableEq, Repr

def Flags.apply (flags : Flags) (changes : FlagChanges) : Flags :=
  ⟨(changes.value? .caseInsensitive).getD flags.caseInsensitive,
    (changes.value? .multiLine).getD flags.multiLine,
    (changes.value? .dotMatchesLineFeed).getD flags.dotMatchesLineFeed,
    (changes.value? .swapGreed).getD flags.swapGreed,
    (changes.value? .unicode).getD flags.unicode,
    (changes.value? .carriageReturn).getD flags.carriageReturn⟩

theorem Flags.apply_nil (flags : Flags) : flags.apply [] = flags := rfl

/-! ### Classes -/

def Shorthand.set (unicode : Bool) : Shorthand → CharSet
  | .digit => if unicode then .property isDecimalDigit else .range '0' '9'
  | .blank =>
    if unicode then .property isBlank else .union (.range '\t' '\r') (.single ' ')
  | .word =>
    if unicode then .property isWordChar
    else .union (.range 'a' 'z') (.union (.range 'A' 'Z') (.union (.range '0' '9') (.single '_')))

/-- The characters of a named class, all of them ASCII. -/
def NamedClass.set : NamedClass → CharSet
  | .alnum => .union (.range '0' '9') (.union (.range 'A' 'Z') (.range 'a' 'z'))
  | .alpha => .union (.range 'A' 'Z') (.range 'a' 'z')
  | .ascii => .range '\x00' '\x7f'
  | .blank => .union (.single '\t') (.single ' ')
  | .cntrl => .union (.range '\x00' '\x1f') (.single '\x7f')
  | .digit => .range '0' '9'
  | .graph => .range '!' '~'
  | .lower => .range 'a' 'z'
  | .print => .range ' ' '~'
  | .punct => .union (.range '!' '/') (.union (.range ':' '@') (.union (.range '[' '\x60')
      (.range '\x7b' '~')))
  | .space => .union (.range '\t' '\r') (.single ' ')
  | .upper => .range 'A' 'Z'
  | .word =>
    .union (.range '0' '9') (.union (.range 'A' 'Z') (.union (.single '_') (.range 'a' 'z')))
  | .xdigit => .union (.range '0' '9') (.union (.range 'A' 'F') (.range 'a' 'f'))

/-- A property name without case, separators, foreign characters and a leading `is`. -/
def plainPropertyName (name : List Char) : String :=
  let (is, name) := match name with
    | i :: s :: rest =>
      if i.toLower == 'i' && s.toLower == 's' then (true, rest) else (false, name)
    | _ => (false, name)
  let plain := (name.filter fun c => isAscii c && c != ' ' && c != '_' && c != '-').map Char.toLower
  if is && plain == ['c'] then "isc" else String.ofList plain

def PropertyName.set? : PropertyName → Option CharSet
  | .plain name => (namedProperty? (plainPropertyName name)).map CharSet.property
  | .valued name value =>
    (valuedProperty? (plainPropertyName name) (plainPropertyName value)).map CharSet.property

/-- A set in every case if the flags ask for it. -/
def CharSet.fold (flags : Flags) (set : CharSet) : CharSet :=
  if flags.caseInsensitive then
    if flags.unicode then .anyCase set else .anyAsciiCase set
  else set

/-- The complement if asked for.  Without the `unicode` flag a complement could match part of a
character, so there is none. -/
def CharSet.negate? (flags : Flags) (negated : Bool) (set : CharSet) : Option CharSet :=
  if negated then if flags.unicode then some (.compl set) else none else some set

/-- What a bracketed set holds. -/
def SetExpr.meaning (flags : Flags) : SetExpr → Option CharSet
  | .empty => some .nothing
  | .range first last =>
    if flags.unicode || (isAscii first && isAscii last) then some (.range first last) else none
  | .named kind negated => (kind.set.fold flags).negate? flags negated
  | .shorthand kind negated => (kind.set flags.unicode).negate? flags negated
  | .property name negated =>
    if flags.unicode then
      match name.set? with
      | some set => (set.fold flags).negate? flags negated
      | none => none
    else none
  | .nested negated inner => match inner.meaning flags with
    | some set => (set.fold flags).negate? flags negated
    | none => none
  | .union a b => match a.meaning flags, b.meaning flags with
    | some a, some b => some (.union a b)
    | _, _ => none
  | .combine operation a b => match a.meaning flags, b.meaning flags with
    | some a, some b =>
      let a := a.fold flags
      let b := b.fold flags
      match operation with
      | .intersection => some (.inter a b)
      | .difference => some (.inter a (.compl b))
      | .symmetricDifference => some (CharSet.symmDiff a b)
    | _, _ => none

/-! ### Expressions -/

/-- The position an assertion asks for. -/
def Assertion.look (flags : Flags) : Assertion → Look
  | .lineStart =>
    if flags.multiLine then if flags.carriageReturn then .breakStart else .lineStart
    else .textStart
  | .lineEnd =>
    if flags.multiLine then if flags.carriageReturn then .breakEnd else .lineEnd
    else .textEnd
  | .textStart => .textStart
  | .textEnd => .textEnd
  | .boundary => .boundary (!flags.unicode)
  | .notBoundary => .notBoundary (!flags.unicode)
  | .wordStart => .wordStart (!flags.unicode)
  | .wordEnd => .wordEnd (!flags.unicode)
  | .wordStartHalf => .wordStartHalf (!flags.unicode)
  | .wordEndHalf => .wordEndHalf (!flags.unicode)

/-- What a dot matches. -/
def dotSet (flags : Flags) : CharSet :=
  if flags.dotMatchesLineFeed then .any
  else if flags.carriageReturn then .compl (.union (.single '\n') (.single '\r'))
  else .compl (.single '\n')

/-- What a single character matches. -/
def literalSet (flags : Flags) (c : Char) : CharSet :=
  if flags.unicode || isAscii c then (CharSet.single c).fold flags else .single c

/-- The regular expression that a pattern means, with the flags in force after it. -/
def Expr.meaning : Expr → Flags → Option (Regex × Flags)
  | .empty, flags => some (.empty, flags)
  | .setFlags changes, flags => some (.empty, flags.apply changes)
  | .literal c byte, flags =>
    if byte && !flags.unicode && !isAscii c then none
    else some (.chars (literalSet flags c), flags)
  | .dot, flags => if flags.unicode then some (.chars (dotSet flags), flags) else none
  | .assertion a, flags => some (.look (a.look flags), flags)
  | .shorthand kind negated, flags =>
    ((kind.set flags.unicode).negate? flags negated).map fun cs => (.chars cs, flags)
  | .property name negated, flags =>
    if flags.unicode then match name.set? with
      | some cs => ((cs.fold flags).negate? flags negated).map fun cs => (.chars cs, flags)
      | none => none
    else none
  | .set negated inner, flags => match inner.meaning flags with
    | some cs => ((cs.fold flags).negate? flags negated).map fun cs => (.chars cs, flags)
    | none => none
  | .capture index e, flags => (e.meaning flags).map fun (r, _) => (.group index r, flags)
  | .scope changes e, flags =>
    (e.meaning (flags.apply changes)).map fun (r, _) => (.scope r, flags)
  | .repeated e min max greedy, flags => match e.meaning flags with
    | some (r, flags) => some (r.rounds min max (greedy != flags.swapGreed), flags)
    | none => none
  | .seq a b, flags => match a.meaning flags with
    | some (ra, flags) => (b.meaning flags).map fun (rb, flags) => (.seq ra rb, flags)
    | none => none
  | .alt a b, flags => match a.meaning flags with
    | some (ra, flags) => (b.meaning flags).map fun (rb, flags) => (.alt ra rb, flags)
    | none => none

end FormRules.Pattern
