import FormRules.Pattern.Expr

/-!
# Reading the text of a pattern

Each reader takes the characters that are left and gives what it read with the characters after
it, or nothing where the text is no pattern.  `Expr.read?` reads a whole pattern.  In verbose mode
blank characters and comments may stand between the parts of a pattern.

Embeds the parser of the `regex` library, under the options that `compile_pattern` sets.
-/

namespace FormRules.Pattern

open FormRules.Text

/-! ### Blank characters and comments -/

/-- The text after its leading blank characters and comments; a comment runs from a hash sign to
the end of its line. -/
def skipComments : (inComment : Bool) → List Char → List Char
  | _, [] => []
  | true, c :: rest => skipComments (c != '\n') rest
  | false, c :: rest =>
    if isBlank c then skipComments false rest
    else if c == '#' then skipComments true rest
    else c :: rest

/-- The text after what verbose mode passes over. -/
def skip (verbose : Bool) (s : List Char) : List Char :=
  if verbose then skipComments false s else s

@[simp] theorem skip_false (s : List Char) : skip false s = s := rfl

/-! ### Numbers -/

/-- The number that decimal digits denote. -/
def decimalValue (digits : List Char) : Nat :=
  digits.foldl (fun n d => 10 * n + (d.toNat - '0'.toNat)) 0

/-- Reads characters of a kind, between which verbose mode passes over blank characters. -/
def readRun (p : Char → Bool) (verbose : Bool) : Nat → List Char → List Char × List Char
  | 0, s => ([], s)
  | fuel + 1, s => match s with
    | [] => ([], [])
    | c :: rest =>
      if p c then
        let (run, rest) := readRun p verbose fuel (skip verbose rest)
        (c :: run, rest)
      else ([], c :: rest)

/-- Reads a number with the blank characters around it; `none` where there is no digit or the
number does not fit in 32 bits. -/
def readCount (verbose : Bool) (s : List Char) : Option Nat × List Char :=
  let (digits, rest) := readRun Char.isDigit verbose (s.length + 1) (trimStart s)
  let value := decimalValue digits
  (if digits.isEmpty || value ≥ 0x100000000 then none else some value, trimStart rest)

/-- Reads what may follow the least count of a repetition: without a comma it is the greatest
count too, and after a comma the greatest count may be left out. -/
def readMost (verbose : Bool) (least : Nat) (s : List Char) :
    Option ((Nat × Option Nat) × List Char) :=
  match s with
  | ',' :: rest => match skip verbose rest with
    | '}' :: rest => some ((least, none), '}' :: rest)
    | rest => match readCount verbose rest with
      | (some most, rest) => if least ≤ most then some ((least, some most), rest) else none
      | (none, _) => none
  | rest => some ((least, some least), rest)

/-- Reads what may follow a repetition sign: a question mark makes it prefer fewer rounds. -/
def readGreed : List Char → Bool × List Char
  | '?' :: rest => (false, rest)
  | rest => (true, rest)

/-- Reads the counts of a repetition after its opening brace: the bounds and the preference. -/
def readBounds (verbose : Bool) (s : List Char) :
    Option ((Nat × Option Nat) × Bool × List Char) :=
  match readCount verbose (skip verbose s) with
  | (none, _) => none
  | (some least, rest) => match readMost verbose least rest with
    | some (bounds, '}' :: rest) => some (bounds, readGreed (skip verbose rest))
    | _ => none

/-! ### Escapes -/

/-- The characters with a meaning of their own in patterns. -/
def isMeta (c : Char) : Bool := "\\.+*?()|[]\x7b\x7d^$#&-~".toList.contains c

/-- ASCII characters that stand for themselves after a backslash. -/
def isEscapable (c : Char) : Bool :=
  isMeta c || (isAscii c && !c.isAlphanum && c != '<' && c != '>')

/-- Reads `count` hexadecimal digits. -/
def readHexDigits (verbose : Bool) : Nat → List Char → Option (List Char × List Char)
  | 0, s => some ([], s)
  | count + 1, s => match s with
    | [] => none
    | c :: rest => match hexDigit? c, readHexDigits verbose count (skip verbose rest) with
      | some _, some (digits, rest) => some (c :: digits, rest)
      | _, _ => none

/-- Reads hexadecimal digits up to a closing brace. -/
def readBracedHex (verbose : Bool) : Nat → List Char → Option (List Char × List Char)
  | 0, _ => none
  | fuel + 1, s => match skip verbose s with
    | [] => none
    | '}' :: rest => some ([], skip verbose rest)
    | c :: rest => match hexDigit? c, readBracedHex verbose fuel rest with
      | some _, some (digits, rest) => some (c :: digits, rest)
      | _, _ => none

/-- The character with a code point given in hexadecimal digits. -/
def hexChar? (digits : List Char) : Option Char :=
  let n := hexValue digits
  if Nat.isValidChar n then some (Char.ofNat n) else none

/-- Reads a code point after `\x`, `\u` or `\U`: `width` digits or any number of them in braces. -/
def readHex (verbose : Bool) (width : Nat) (s : List Char) : Option (Expr × List Char) :=
  match skip verbose s with
  | '{' :: rest => match readBracedHex verbose (rest.length + 1) rest with
    | some (digits, rest) =>
      if digits.isEmpty then none else (hexChar? digits).map fun c => (.literal c false, rest)
    | none => none
  | s => match readHexDigits verbose width s with
    | some (digits, rest) => (hexChar? digits).map fun c => (.literal c (width == 2), rest)
    | none => none

/-- Reads up to a closing brace. -/
def readBracedName (verbose : Bool) : Nat → List Char → Option (List Char × List Char)
  | 0, _ => none
  | fuel + 1, s => match skip verbose s with
    | [] => none
    | '}' :: rest => some ([], rest)
    | c :: rest => (readBracedName verbose fuel rest).map fun (name, rest) => (c :: name, rest)

/-- Cuts a text at the first place where a mark stands. -/
def cutAt? (mark : List Char) : List Char → Option (List Char × List Char)
  | [] => if mark.isEmpty then some ([], []) else none
  | c :: rest =>
    if mark.isPrefixOf (c :: rest) then some ([], (c :: rest).drop mark.length)
    else (cutAt? mark rest).map fun (first, last) => (c :: first, last)

/-- A property name with or without a value; the value follows `!=`, a colon or an equals sign. -/
def propertyName (name : List Char) : PropertyName :=
  match cutAt? ['!', '='] name with
  | some (name, value) => .valued name value
  | none => match cutAt? [':'] name with
    | some (name, value) => .valued name value
    | none => match cutAt? ['='] name with
      | some (name, value) => .valued name value
      | none => .plain name

/-- Reads a property name after `\p`: one letter, or any name in braces. -/
def readProperty (verbose : Bool) (s : List Char) : Option (PropertyName × List Char) :=
  match skip verbose s with
  | [] => none
  | '{' :: rest =>
    (readBracedName verbose (rest.length + 1) rest).map fun (name, rest) =>
      (propertyName name, rest)
  | '\\' :: _ => none
  | c :: rest => some (.plain [c], skip verbose rest)

def isBoundaryNamePart (c : Char) : Bool := c.isAlpha || c == '-'

def boundaryOf? (name : List Char) : Option Assertion :=
  [("start", .wordStart), ("end", .wordEnd), ("start-half", .wordStartHalf),
    ("end-half", .wordEndHalf)].lookup (String.ofList name)

/-- Reads what may follow `\b`: the name of a boundary in braces.  Braces that do not start with a
letter or a hyphen are left for a repetition. -/
def readBoundary (verbose : Bool) (s : List Char) : Option (Assertion × List Char) :=
  match s with
  | '{' :: rest => match skip verbose rest with
    | [] => none
    | c :: rest =>
      if isBoundaryNamePart c then
        match readRun isBoundaryNamePart verbose (rest.length + 2) (c :: rest) with
        | (name, '}' :: rest) => (boundaryOf? name).map fun a => (a, rest)
        | _ => none
      else some (.boundary, s)
  | _ => some (.boundary, s)

/-- What a backslash with a letter or an angle bracket means where nothing else belongs to it. -/
def letterEscape? : Char → Option Expr
  | 'd' => some (.shorthand .digit false)
  | 'D' => some (.shorthand .digit true)
  | 's' => some (.shorthand .blank false)
  | 'S' => some (.shorthand .blank true)
  | 'w' => some (.shorthand .word false)
  | 'W' => some (.shorthand .word true)
  | 'a' => some (.literal '\x07' false)
  | 'f' => some (.literal '\x0c' false)
  | 't' => some (.literal '\t' false)
  | 'n' => some (.literal '\n' false)
  | 'r' => some (.literal '\r' false)
  | 'v' => some (.literal '\x0b' false)
  | 'A' => some (.assertion .textStart)
  | 'z' => some (.assertion .textEnd)
  | 'B' => some (.assertion .notBoundary)
  | '<' => some (.assertion .wordStart)
  | '>' => some (.assertion .wordEnd)
  | _ => none

/-- Reads an escape after its backslash. -/
def readEscape (verbose : Bool) : List Char → Option (Expr × List Char)
  | [] => none
  | c :: rest =>
    if c.isDigit then none
    else if c == 'x' then readHex verbose 2 rest
    else if c == 'u' then readHex verbose 4 rest
    else if c == 'U' then readHex verbose 8 rest
    else if c == 'p' || c == 'P' then
      (readProperty verbose rest).map fun (name, rest) => (.property name (c == 'P'), rest)
    else if isEscapable c then some (.literal c false, rest)
    else if c == 'b' then
      (readBoundary verbose rest).map fun (a, rest) => (.assertion a, rest)
    else (letterEscape? c).map fun e => (e, rest)

/-! ### Sets in brackets -/

def namedClass? (name : List Char) : Option NamedClass :=
  [("alnum", .alnum), ("alpha", .alpha), ("ascii", .ascii), ("blank", .blank), ("cntrl", .cntrl),
    ("digit", .digit), ("graph", .graph), ("lower", .lower), ("print", .print),
    ("punct", .punct), ("space", .space), ("upper", .upper), ("word", .word),
    ("xdigit", .xdigit)].lookup (String.ofList name)

/-- Reads the name of a class up to its closing colon and bracket. -/
def readClassName (negated : Bool) (s : List Char) : Option (SetExpr × List Char) :=
  match s.dropWhile (· != ':') with
  | ':' :: ']' :: after =>
    (namedClass? (s.takeWhile (· != ':'))).map fun kind => (.named kind negated, after)
  | _ => none

/-- Reads a named class after its opening bracket: `:name:]` or `:^name:]`. -/
def readNamedClass : List Char → Option (SetExpr × List Char)
  | ':' :: '^' :: rest => readClassName true rest
  | ':' :: rest => readClassName false rest
  | _ => none

/-- The character that a verbose pattern shows after a hyphen, over blank characters and one hash
sign; nothing but blank characters stands for itself. -/
def peekBlank : (hash : Bool) → List Char → Option Char
  | _, [] => none
  | hash, c :: rest =>
    if isBlank c then peekBlank hash rest
    else if !hash && c == '#' then peekBlank true rest
    else some c

def peekAfterHyphen (verbose : Bool) (s : List Char) : Option Char :=
  if verbose then (peekBlank false s).or s.head? else s.head?

/-- Reads one member of a set: a character or an escape. -/
def readMember (verbose : Bool) : List Char → Option (Expr × List Char)
  | [] => none
  | '\\' :: rest => readEscape verbose rest
  | c :: rest => some (.literal c false, rest)

/-- A member that stands for itself. -/
def memberSet? : Expr → Option SetExpr
  | .literal c _ => some (.range c c)
  | .shorthand kind negated => some (.shorthand kind negated)
  | .property name negated => some (.property name negated)
  | _ => none

def readRange (verbose : Bool) (s : List Char) : Option (SetExpr × List Char) :=
  match readMember verbose s with
  | none => none
  | some (first, rest) => match skip verbose rest with
    | [] => none
    | '-' :: rest =>
      let next := peekAfterHyphen verbose rest
      if next == some ']' || next == some '-' then
        (memberSet? first).map fun item => (item, '-' :: rest)
      else match readMember verbose (skip verbose rest) with
        | none => none
        | some (last, rest) => match first, last with
          | .literal a _, .literal b _ => if a ≤ b then some (.range a b, rest) else none
          | _, _ => none
    | rest => (memberSet? first).map fun item => (item, rest)

/-- Reads the caret that negates a set. -/
def readCaret (verbose : Bool) (s : List Char) : Bool × List Char :=
  match skip verbose s with
  | '^' :: rest => (true, skip verbose rest)
  | s => (false, s)

/-- Reads the start of a set after its opening bracket: whether it is negated, and the hyphens or
the closing bracket that stand for themselves there. -/
def readSetStart (verbose : Bool) (s : List Char) : Bool × List SetExpr × List Char :=
  let (negated, s) := readCaret verbose s
  let (hyphens, s) := readRun (· == '-') verbose (s.length + 1) s
  match hyphens.map fun c => SetExpr.range c c, s with
  | [], ']' :: rest => (negated, [.range ']' ']'], skip verbose rest)
  | items, s => (negated, items, s)

/-- Joins what stands before an operator with the items after it. -/
def closeOperation (before : Option (SetOperation × SetExpr)) (items : List SetExpr) : SetExpr :=
  let last := SetExpr.ofItems items.reverse
  match before with
  | none => last
  | some (operation, first) => .combine operation first last

def readOperation : List Char → Option (SetOperation × List Char)
  | '&' :: '&' :: rest => some (.intersection, rest)
  | '-' :: '-' :: rest => some (.difference, rest)
  | '~' :: '~' :: rest => some (.symmetricDifference, rest)
  | _ => none

/-- Reads the rest of a set up to its closing bracket; `items` holds what was read since the last
operator, the latest first. -/
def readSet (verbose : Bool) : Nat → Option (SetOperation × SetExpr) → List SetExpr →
    List Char → Option (SetExpr × List Char)
  | 0, _, _, _ => none
  | fuel + 1, before, items, s => match skip verbose s with
    | [] => none
    | ']' :: rest => some (closeOperation before items, rest)
    | '[' :: rest => match readNamedClass rest with
      | some (item, rest) => readSet verbose fuel before (item :: items) rest
      | none =>
        let (negated, first, rest) := readSetStart verbose rest
        match readSet verbose fuel none first.reverse rest with
        | some (inner, rest) => readSet verbose fuel before (.nested negated inner :: items) rest
        | none => none
    | s => match readOperation s with
      | some (operation, rest) =>
        readSet verbose fuel (some (operation, closeOperation before items)) [] rest
      | none => match readRange verbose s with
        | some (item, rest) => readSet verbose fuel before (item :: items) rest
        | none => none

/-- Reads a set after its opening bracket. -/
def readBracketed (verbose : Bool) (s : List Char) : Option (Expr × List Char) :=
  let (negated, first, rest) := readSetStart verbose s
  (readSet verbose (rest.length + 1) none first.reverse rest).map fun (inner, rest) =>
    (.set negated inner, rest)

/-! ### Groups -/

/-- What is carried along while a pattern is read. -/
structure ReaderState where
  /-- Whether blank characters and comments are passed over. -/
  verbose : Bool
  /-- The number of recording groups so far. -/
  groups : Nat
  /-- The names of groups so far. -/
  names : List (List Char)

/-- The flag that a letter stands for. -/
def flagOf? : Char → Option Flag
  | 'i' => some .caseInsensitive
  | 'm' => some .multiLine
  | 's' => some .dotMatchesLineFeed
  | 'U' => some .swapGreed
  | 'u' => some .unicode
  | 'R' => some .carriageReturn
  | 'x' => some .verbose
  | _ => none

/-- Reads flag letters up to a colon or a closing parenthesis, which stays.  No letter may occur
twice, and a minus, of which there is at most one, has a letter after it. -/
def readFlags : (negated dangling : Bool) → FlagChanges → List Char →
    Option (FlagChanges × List Char)
  | _, _, _, [] => none
  | negated, dangling, changes, c :: rest =>
    if c == ':' || c == ')' then
      if dangling then none else some (changes.reverse, c :: rest)
    else if c == '-' then
      if negated then none else readFlags true true changes rest
    else match flagOf? c with
      | none => none
      | some flag =>
        if changes.any (fun change => change.1 == flag) then none
        else readFlags negated false ((flag, !negated) :: changes) rest

def isNameStart (c : Char) : Bool := c == '_' || isAlphabetic c

/-- The characters that a group name may go on with. -/
def isNamePart (c : Char) : Bool :=
  c == '_' || c == '.' || c == '[' || c == ']' || isAlphanumeric c

/-- Reads a group name and the angle bracket after it. -/
def readGroupName (s : List Char) : Option (List Char × List Char) :=
  match s with
  | [] => none
  | c :: rest =>
    if isNameStart c then
      match rest.dropWhile isNamePart with
      | '>' :: after => some (c :: rest.takeWhile isNamePart, after)
      | _ => none
    else none

/-- The groups that a parenthesis can open. -/
inductive Group
  | capture (index : Nat)
  | scope (changes : FlagChanges)

def Group.around : Group → Expr → Expr
  | capture index, e => .capture index e
  | scope changes, e => .scope changes e

/-- How a parenthesis begins: a group or a change of flags. -/
inductive Opening
  | group (g : Group)
  | setFlags (changes : FlagChanges)

/-- The state inside a new recording group. -/
def ReaderState.capture (state : ReaderState) (names : List (List Char)) : ReaderState :=
  ⟨state.verbose, state.groups + 1, names⟩

def ReaderState.apply (state : ReaderState) (changes : FlagChanges) : ReaderState :=
  ⟨(changes.value? .verbose).getD state.verbose, state.groups, state.names⟩

/-- Starts a recording group that has a name. -/
def openNamed (state : ReaderState) (s : List Char) :
    Option (Opening × ReaderState × List Char) :=
  match readGroupName s with
  | some (name, rest) =>
    if state.names.contains name then none
    else
      some (.group (.capture (state.groups + 1)), state.capture (name :: state.names), rest)
  | none => none

/-- Starts a group that changes flags, or changes them for what follows. -/
def openFlagged (state : ReaderState) (s : List Char) :
    Option (Opening × ReaderState × List Char) :=
  match readFlags false false [] s with
  | some (changes, ')' :: rest) =>
    if changes.isEmpty then none else some (.setFlags changes, state.apply changes, rest)
  | some (changes, ':' :: rest) => some (.group (.scope changes), state.apply changes, rest)
  | _ => none

/-- Reads what follows an opening parenthesis with a question mark. -/
def readExtension (state : ReaderState) : List Char → Option (Opening × ReaderState × List Char)
  | 'P' :: '<' :: rest => openNamed state rest
  | '<' :: '=' :: _ => none
  | '<' :: '!' :: _ => none
  | '<' :: rest => openNamed state rest
  | rest => openFlagged state rest

/-- Reads what follows an opening parenthesis. -/
def readOpening (state : ReaderState) (s : List Char) :
    Option (Opening × ReaderState × List Char) :=
  match skip state.verbose s with
  | '?' :: rest => readExtension state rest
  | rest => some (.group (.capture (state.groups + 1)), state.capture state.names, rest)

/-! ### Whole patterns -/

/-- Puts a repetition on the latest item. -/
def repeatLast (min : Nat) (max : Option Nat) (greedy : Bool) : List Expr → Option (List Expr)
  | [] => none
  | item :: items =>
    if item.isRepeatable then some (.repeated item min max greedy :: items) else none

/-- The alternatives read so far as one expression. -/
def closeBranches (branches items : List Expr) : Expr :=
  Expr.ofBranches ((Expr.ofItems items.reverse :: branches).reverse)

/-- The signs that repeat what stands before them. -/
def isRepetition (c : Char) : Bool := c == '?' || c == '*' || c == '+' || c == '{'

/-- Reads a repetition after its sign: the bounds and the preference. -/
def readRepetition (verbose : Bool) (c : Char) (s : List Char) :
    Option ((Nat × Option Nat) × Bool × List Char) :=
  match c with
  | '?' => some ((0, some 1), readGreed s)
  | '*' => some ((0, none), readGreed s)
  | '+' => some ((1, none), readGreed s)
  | _ => readBounds verbose s

/-- Reads a part of a pattern that is no group, after its first character. -/
def readItem (verbose : Bool) (c : Char) (s : List Char) : Option (Expr × List Char) :=
  match c with
  | '[' => readBracketed verbose s
  | '\\' => readEscape verbose s
  | '.' => some (.dot, s)
  | '^' => some (.assertion .lineStart, s)
  | '$' => some (.assertion .lineEnd, s)
  | c => some (.literal c false, s)

/-- Reads alternatives up to a closing parenthesis, which stays, or the end.  `branches` holds the
alternatives and `items` the parts of the current one, the latest first. -/
def readBody : Nat → ReaderState → List Expr → List Expr → List Char →
    Option (Expr × ReaderState × List Char)
  | 0, _, _, _, _ => none
  | fuel + 1, state, branches, items, s => match skip state.verbose s with
    | [] => some (closeBranches branches items, state, [])
    | c :: rest =>
      if c == ')' then some (closeBranches branches items, state, c :: rest)
      else if c == '|' then
        readBody fuel state (Expr.ofItems items.reverse :: branches) [] rest
      else if c == '(' then
        match readOpening state rest with
        | none => none
        | some (.setFlags changes, inner, rest) =>
          readBody fuel inner branches (.setFlags changes :: items) rest
        | some (.group g, inner, rest) => match readBody fuel inner [] [] rest with
          | some (e, after, ')' :: rest) =>
            readBody fuel ⟨state.verbose, after.groups, after.names⟩ branches
              (g.around e :: items) rest
          | _ => none
      else if isRepetition c then
        match readRepetition state.verbose c rest with
        | some ((min, max), greedy, rest) => match repeatLast min max greedy items with
          | some items => readBody fuel state branches items rest
          | none => none
        | none => none
      else match readItem state.verbose c rest with
        | some (e, rest) => readBody fuel state branches (e :: items) rest
        | none => none

/-- The greatest nesting depth of a pattern. -/
def maxDepth : Nat := 250

/-- Reads a whole pattern. -/
def Expr.read? (verbose : Bool) (s : List Char) : Option Expr :=
  match readBody (s.length + 1) ⟨verbose, 0, []⟩ [] [] s with
  | some (e, _, []) => if e.depth .alone ≤ maxDepth then some e else none
  | _ => none

end FormRules.Pattern
