import FormRules.Toml.Scalar
import FormRules.Toml.Table
import FormRules.Toml.Text

/-!
# Reading TOML documents

A document is a list of lines that open tables and give values to keys.  `Toml.read?` reads it and
gives the entries of its outermost table.

Embeds the parser of `toml` that `from_toml_str` calls.
-/

namespace FormRules.Toml

/-! ### Gaps -/

/-- The text after blank characters within a line. -/
def skipBlank (s : List Char) : List Char := s.dropWhile isLineBlank

/-- The text after a comment, given the text after its sign: the end or the line break that ends
the line stays.  Controls may not stand in comments. -/
def skipComment (s : List Char) : List Char := s.dropWhile isLineChar

/-- The text after blank characters, line breaks and comments. -/
def skipGap : Nat → List Char → List Char
  | 0, s => s
  | _ + 1, [] => []
  | fuel + 1, c :: s =>
    if isLineBlank c then skipGap fuel s
    else if c = '#' then
      match skipComment s with
      | [] => []
      | d :: s => match afterBreak? (d :: s) with
        | some s => skipGap fuel s
        | none => d :: s
    else match afterBreak? (c :: s) with
      | some s => skipGap fuel s
      | none => c :: s

/-- The text after the gap between the parts of an array or an inline table. -/
def gap (s : List Char) : List Char := skipGap s.length s

/-- The text after the end of a line: blank characters, a comment, and a line break or the end. -/
def afterLine? (s : List Char) : Option (List Char) :=
  match skipBlank s with
  | [] => some []
  | c :: s =>
    let rest := if c = '#' then skipComment s else c :: s
    match rest with
    | [] => some []
    | _ => afterBreak? rest

/-! ### Keys -/

/-- Whether a character may stand in a key without quotes. -/
def isBareKeyChar (c : Char) : Bool := c.isAlphanum || c == '_' || c == '-'

/-- Reads a key without dots. -/
def readSimpleKey? (s : List Char) : Option (String × List Char) :=
  match s with
  | [] => none
  | c :: rest =>
    if isQuote c then (readSingle? c rest).map fun (key, rest) => (String.ofList key, rest)
    else match s.takeWhile isBareKeyChar with
      | [] => none
      | d :: key => some (String.ofList (d :: key), s.dropWhile isBareKeyChar)

/-- The greatest number of dots in a key. -/
def maxDots : Nat := 80

/-- Reads a key: the steps before the last one, and the last one.  Blank characters may stand
around the dots. -/
def readKey? : Nat → List Char → Option ((List String × String) × List Char)
  | 0, _ => none
  | dots + 1, s => match readSimpleKey? (skipBlank s) with
    | none => none
    | some (key, rest) => match skipBlank rest with
      | [] => some (([], key), [])
      | c :: after =>
        if c = '.' then
          (readKey? dots after).map fun ((path, last), rest) => ((key :: path, last), rest)
        else some (([], key), c :: after)

/-- Reads a key and the equals sign after it. -/
def readAssigned? (s : List Char) : Option ((List String × String) × List Char) :=
  match readKey? (maxDots + 1) s with
  | none => none
  | some (key, rest) => match rest with
    | [] => none
    | c :: rest => if c = '=' then some (key, rest) else none

/-! ### Values -/

/-- Whether a character may stand in a scalar without quotes. -/
def isScalarChar (c : Char) : Bool :=
  c.isAlphanum || c == '_' || c == '-' || c == '+' || c == '.' || c == ':'

/-- Whether a text is a date, to which a time may be added after a space. -/
def isDateText (s : List Char) : Bool :=
  match TomlDatetime.readDate? s with
  | some (_, []) => true
  | _ => false

/-- The characters of a scalar at the start of a text, and the text after it. -/
def scalarText (s : List Char) : List Char × List Char :=
  let run := s.takeWhile isScalarChar
  match s.dropWhile isScalarChar with
  | ' ' :: d :: rest =>
    if isDateText run && d.isDigit then
      (run ++ ' ' :: (d :: rest).takeWhile isScalarChar, (d :: rest).dropWhile isScalarChar)
    else (run, ' ' :: d :: rest)
  | rest => (run, rest)

/-- The greatest depth of arrays and inline tables within each other. -/
def maxNesting : Nat := 80

mutual

/-- Reads a value that may be nested `depth` deep, after blank characters. -/
def readValue? : Nat → Nat → List Char → Option (TomlValue × List Char)
  | 0, _, _ => none
  | fuel + 1, depth, s => match skipBlank s with
    | [] => none
    | c :: rest =>
      if isQuote c then
        (readString? c rest).map fun (text, rest) => (.string (String.ofList text), rest)
      else if c = '[' then
        match depth with
        | 0 => none
        | depth + 1 => (readItems? fuel depth rest).map fun (items, rest) => (.array items, rest)
      else if c = '{' then
        match depth with
        | 0 => none
        | depth + 1 => (readEntries? fuel depth [] rest).map fun (draft, rest) =>
          (.table (Draft.toEntries draft), rest)
      else
        let (run, rest) := scalarText (c :: rest)
        (readScalar? run).map fun v => (v, rest)

/-- Reads the items of an array up to its closing bracket.  A comma may follow the last one. -/
def readItems? : Nat → Nat → List Char → Option (List TomlValue × List Char)
  | 0, _, _ => none
  | fuel + 1, depth, s => match gap s with
    | [] => none
    | c :: rest =>
      if c = ']' then some ([], rest)
      else match readValue? fuel depth (c :: rest) with
        | none => none
        | some (item, rest) => match gap rest with
          | [] => none
          | c :: rest =>
            if c = ']' then some ([item], rest)
            else if c = ',' then
              (readItems? fuel depth rest).map fun (items, rest) => (item :: items, rest)
            else none

/-- Reads the entries of an inline table up to its closing brace.  A comma may follow the last
one. -/
def readEntries? : Nat → Nat → Draft → List Char → Option (Draft × List Char)
  | 0, _, _, _ => none
  | fuel + 1, depth, draft, s => match gap s with
    | [] => none
    | c :: rest =>
      if c = '}' then some (draft, rest)
      else match readAssigned? (c :: rest) with
        | none => none
        | some ((path, key), rest) => match readValue? fuel depth rest with
          | none => none
          | some (v, rest) => match Draft.assign? path key v draft, gap rest with
            | none, _ => none
            | some _, [] => none
            | some draft, c :: rest =>
              if c = '}' then some (draft, rest)
              else if c = ',' then readEntries? fuel depth draft rest
              else none

end

/-! ### Documents -/

/-- A line of a document. -/
inductive Line where
  /-- Opens a table. -/
  | table (path : List String) (key : String)
  /-- Opens one more of several tables. -/
  | item (path : List String) (key : String)
  /-- Gives a value to a key of the open table. -/
  | assign (path : List String) (key : String) (v : TomlValue)
  deriving Repr

/-- Reads a header after its opening bracket. -/
def readHeader? (s : List Char) : Option (Line × List Char) :=
  match s with
  | '[' :: s => match readKey? (maxDots + 1) s with
    | some ((path, key), ']' :: ']' :: rest) => some (.item path key, rest)
    | _ => none
  | s => match readKey? (maxDots + 1) s with
    | some ((path, key), ']' :: rest) => some (.table path key, rest)
    | _ => none

/-- Reads a line with something on it, up to what may end it. -/
def readLine? (s : List Char) : Option (Line × List Char) :=
  match s with
  | '[' :: s => readHeader? s
  | s => match readAssigned? s with
    | none => none
    | some ((path, key), rest) =>
      (readValue? (2 * rest.length + 2) maxNesting rest).map fun (v, rest) =>
        (.assign path key v, rest)

/-- Reads the lines of a document.  Every line takes at least one character. -/
def readLines : Nat → List Char → Option (List Line)
  | 0, s => if (gap s).isEmpty then some [] else none
  | fuel + 1, s => match gap s with
    | [] => some []
    | c :: rest => match readLine? (c :: rest) with
      | none => none
      | some (line, rest) => match afterLine? rest with
        | none => none
        | some rest => (readLines fuel rest).map (line :: ·)

/-- A document while its lines are followed: its outermost table and the path of the open one. -/
structure Document where
  draft : Draft := []
  opened : List String := []

def Document.follow? (document : Document) : Line → Option Document
  | .table path key =>
    (Draft.openTable? path key document.draft).map fun draft => ⟨draft, path ++ [key]⟩
  | .item path key =>
    (Draft.openItem? path key document.draft).map fun draft => ⟨draft, path ++ [key]⟩
  | .assign path key v =>
    (Draft.along? (Draft.assign? path key v) document.opened document.draft).map fun draft =>
      { document with draft }

/-- A text without the byte order mark at its start. -/
def dropByteOrderMark : List Char → List Char
  | [] => []
  | c :: s => if c.toNat = 0xFEFF then s else c :: s

/-- The entries of the outermost table of a document. -/
def read? (text : String) : Option (List (String × TomlValue)) := do
  let s := dropByteOrderMark text.toList
  let lines ← readLines (s.length + 1) s
  let document ← lines.foldlM Document.follow? ({} : Document)
  return Draft.toEntries document.draft

end FormRules.Toml
