import FormRules.Text.Hexadecimal

/-!
# Strings of TOML documents

A string stands in double quotes, where a backslash begins an escape, or in single quotes, where
nothing is escaped.  Three quotes on either side let it run over several lines.  Every reader takes
the text after the opening quotes and gives the string with the text after the closing ones.

Embeds the strings of `toml`, TOML 1.1.
-/

namespace FormRules.Toml

open FormRules.Text

/-! ### Characters -/

def isLineBlank (c : Char) : Bool := c == ' ' || c == '\t'

/-- Whether a character may stand for itself within a line. -/
def isLineChar (c : Char) : Bool := c == '\t' || (0x20 ≤ c.toNat && c.toNat != 0x7F)

/-- The text after a line break, if it starts with one. -/
def afterBreak? : List Char → Option (List Char)
  | [] => none
  | c :: s =>
    if c = '\n' then some s
    else if c = '\r' then
      match s with
      | [] => none
      | d :: s => if d = '\n' then some s else none
    else none

/-- The text after three of one quote, if it starts with them. -/
def afterTriple? (quote : Char) : List Char → Option (List Char)
  | a :: b :: c :: s => if a = quote ∧ b = quote ∧ c = quote then some s else none
  | _ => none

/-! ### Escapes -/

/-- The character with a code, unless the code is a surrogate or too large. -/
def charOfCode? (code : Nat) : Option Char :=
  if code < 0xD800 ∨ (0xDFFF < code ∧ code < 0x110000) then some (Char.ofNat code) else none

/-- Reads a number with a fixed count of hexadecimal digits. -/
def readHex? : Nat → Nat → List Char → Option (Nat × List Char)
  | 0, n, s => some (n, s)
  | _ + 1, _, [] => none
  | count + 1, n, c :: s => match hexDigit? c with
    | some d => readHex? count (16 * n + d) s
    | none => none

def readCode? (digits : Nat) (s : List Char) : Option (Char × List Char) := do
  let (code, s) ← readHex? digits 0 s
  let c ← charOfCode? code
  return (c, s)

/-- Reads what follows a backslash. -/
def readEscape? : List Char → Option (Char × List Char)
  | [] => none
  | c :: s => match c with
    | 'b' => some ('\x08', s)
    | 't' => some ('\t', s)
    | 'n' => some ('\n', s)
    | 'f' => some ('\x0c', s)
    | 'r' => some ('\r', s)
    | 'e' => some ('\x1b', s)
    | '"' => some ('"', s)
    | '\\' => some ('\\', s)
    | 'x' => readCode? 2 s
    | 'u' => readCode? 4 s
    | 'U' => readCode? 8 s
    | _ => none

/-- The text after blank characters and line breaks. -/
def skipBreaks : List Char → List Char
  | [] => []
  | c :: s =>
    if isLineBlank c || c == '\n' then skipBreaks s
    else if c = '\r' then
      match s with
      | [] => ['\r']
      | d :: s => if d = '\n' then skipBreaks s else '\r' :: d :: s
    else c :: s

/-- The text after a line break that a backslash takes away, with the blank characters before it
and all that is blank after it. -/
def afterJoin? (s : List Char) : Option (List Char) :=
  (afterBreak? (s.dropWhile isLineBlank)).map skipBreaks

/-! ### Strings -/

/-- Puts a character before a string that was read. -/
def prepend (c : Char) (read : Option (List Char × List Char)) : Option (List Char × List Char) :=
  read.map fun (text, rest) => (c :: text, rest)

/-- Reads a string in single quotes. -/
def readLiteral? : List Char → Option (List Char × List Char)
  | [] => none
  | c :: s =>
    if c = '\'' then some ([], s)
    else if isLineChar c then prepend c (readLiteral? s)
    else none

/-- Reads a string in double quotes. -/
def readBasic? : Nat → List Char → Option (List Char × List Char)
  | 0, _ => none
  | _ + 1, [] => none
  | fuel + 1, c :: s =>
    if c = '"' then some ([], s)
    else if c = '\\' then
      match readEscape? s with
      | some (e, s) => prepend e (readBasic? fuel s)
      | none => none
    else if isLineChar c then prepend c (readBasic? fuel s)
    else none

/-- What ends a string of several lines: of the quotes before the closing three, up to two belong
to the string. -/
def readClosing (quote : Char) (s : List Char) : List Char × List Char :=
  match s with
  | a :: b :: s =>
    if a = quote then if b = quote then ([a, b], s) else ([a], b :: s)
    else ([], a :: b :: s)
  | [a] => if a = quote then ([a], []) else ([], [a])
  | [] => ([], [])

/-- Reads a string of several lines.  With double quotes a backslash begins an escape or takes a
line break away. -/
def readBody? (quote : Char) : Nat → List Char → Option (List Char × List Char)
  | 0, _ => none
  | _ + 1, [] => none
  | fuel + 1, c :: s => match afterTriple? quote (c :: s) with
    | some rest => some (readClosing quote rest)
    | none =>
      if c = '\\' ∧ quote = '"' then
        match afterJoin? s with
        | some s => readBody? quote fuel s
        | none => match readEscape? s with
          | some (e, s) => prepend e (readBody? quote fuel s)
          | none => none
      else if c = '\r' then
        match afterBreak? (c :: s) with
        | some s => prepend '\r' (prepend '\n' (readBody? quote fuel s))
        | none => none
      else if c = '\n' ∨ isLineChar c then prepend c (readBody? quote fuel s)
      else none

/-- Reads a string of several lines; a line break right at its start does not belong to it. -/
def readMultiline? (quote : Char) (s : List Char) : Option (List Char × List Char) :=
  readBody? quote (s.length + 1) ((afterBreak? s).getD s)

/-- Reads a string on one line, given its quote. -/
def readSingle? (quote : Char) (s : List Char) : Option (List Char × List Char) :=
  if quote = '\'' then readLiteral? s else readBasic? (s.length + 1) s

/-- Whether a character opens a string. -/
def isQuote (c : Char) : Bool := c == '"' || c == '\''

/-- Reads a string of either kind, given its first quote. -/
def readString? (quote : Char) (s : List Char) : Option (List Char × List Char) :=
  match afterTriple? quote (quote :: s) with
  | some rest => readMultiline? quote rest
  | none => readSingle? quote s

end FormRules.Toml
