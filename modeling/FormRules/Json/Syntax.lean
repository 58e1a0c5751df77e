import FormRules.Json.Number
import FormRules.Text.Hexadecimal

/-!
# The grammar of JSON texts

`JsonSyntax.read?` reads a text as a tree that keeps strings as code units, numbers as literals and
the members of objects as they stand.  Whether strings and numbers stand for anything is a question
of their meaning, not of grammar.

Embeds the reader of `serde_json`, which skips the members that nothing asks for without a look at
what they mean.
-/

namespace FormRules

open FormRules.Text

/-- A JSON text as a tree.  Strings are given by code units, of which only those that were written
as escapes can be surrogates. -/
inductive JsonSyntax where
  | null
  | bool (b : Bool)
  | number (literal : NumberLiteral)
  | string (units : List Nat)
  | array (items : List JsonSyntax)
  | object (members : List (List Nat × JsonSyntax))
  deriving Repr

namespace JsonSyntax

/-- Whether a character may stand between the parts of a text. -/
def isGap (c : Char) : Bool := c == ' ' || c == '\t' || c == '\n' || c == '\r'

/-- The text after its leading gap. -/
def skipGap (s : List Char) : List Char := s.dropWhile isGap

/-! ### Strings -/

/-- The character that a letter after a backslash stands for. -/
def unescape? (c : Char) : Option Char :=
  match c with
  | '"' => some '"'
  | '\\' => some '\\'
  | '/' => some '/'
  | 'b' => some '\x08'
  | 'f' => some '\x0c'
  | 'n' => some '\n'
  | 'r' => some '\r'
  | 't' => some '\t'
  | _ => none

/-- The code unit of four hexadecimal digits. -/
def unit? (a b c d : Char) : Option Nat := do
  let a ← hexDigit? a
  let b ← hexDigit? b
  let c ← hexDigit? c
  let d ← hexDigit? d
  return ((a * 16 + b) * 16 + c) * 16 + d

/-- Reads the code units of a string up to its closing quote.  Controls must be escaped. -/
def readUnits : List Char → Option (List Nat × List Char)
  | [] => none
  | c :: rest =>
    if c = '"' then some ([], rest)
    else if c = '\\' then
      match rest with
      | [] => none
      | e :: rest =>
        if e = 'u' then
          match rest with
          | a :: b :: c :: d :: rest => do
            let unit ← unit? a b c d
            let (units, rest) ← readUnits rest
            return (unit :: units, rest)
          | _ => none
        else do
          let e ← unescape? e
          let (units, rest) ← readUnits rest
          return (e.toNat :: units, rest)
    else if c.toNat < 0x20 then none
    else do
      let (units, rest) ← readUnits rest
      return (c.toNat :: units, rest)

/-! ### Values -/

/-- The text after a word, if it starts with it. -/
def afterWord? : List Char → List Char → Option (List Char)
  | [], s => some s
  | _ :: _, [] => none
  | w :: word, c :: s => if w = c then afterWord? word s else none

/-- Reads one of the words for truth values and nothing, or else a number. -/
def readAtom (s : List Char) : Option (JsonSyntax × List Char) :=
  match afterWord? "null".toList s, afterWord? "true".toList s, afterWord? "false".toList s with
  | some rest, _, _ => some (.null, rest)
  | _, some rest, _ => some (.bool true, rest)
  | _, _, some rest => some (.bool false, rest)
  | _, _, _ => (NumberLiteral.read? s).map fun (literal, rest) => (.number literal, rest)

mutual

/-- Reads a value, with a gap before it. -/
def readValue : Nat → List Char → Option (JsonSyntax × List Char)
  | 0, _ => none
  | fuel + 1, s => match skipGap s with
    | [] => none
    | c :: rest =>
      if c = '"' then (readUnits rest).map fun (units, rest) => (.string units, rest)
      else if c = '[' then
        match skipGap rest with
        | [] => none
        | d :: after =>
          if d = ']' then some (.array [], after)
          else (readItems fuel rest).map fun (items, rest) => (.array items, rest)
      else if c = '{' then
        match skipGap rest with
        | [] => none
        | d :: after =>
          if d = '}' then some (.object [], after)
          else (readMembers fuel rest).map fun (members, rest) => (.object members, rest)
      else readAtom (c :: rest)

/-- Reads the items of an array up to its closing bracket. -/
def readItems : Nat → List Char → Option (List JsonSyntax × List Char)
  | 0, _ => none
  | fuel + 1, s => match readValue fuel s with
    | none => none
    | some (item, rest) => match skipGap rest with
      | [] => none
      | c :: rest =>
        if c = ']' then some ([item], rest)
        else if c = ',' then
          (readItems fuel rest).map fun (items, rest) => (item :: items, rest)
        else none

/-- Reads the members of an object up to its closing brace. -/
def readMembers : Nat → List Char → Option (List (List Nat × JsonSyntax) × List Char)
  | 0, _ => none
  | fuel + 1, s => match readName s with
    | none => none
    | some (name, rest) => match readValue fuel rest with
      | none => none
      | some (value, rest) => match skipGap rest with
        | [] => none
        | c :: rest =>
          if c = '}' then some ([(name, value)], rest)
          else if c = ',' then
            (readMembers fuel rest).map fun (members, rest) => ((name, value) :: members, rest)
          else none

/-- Reads the name of a member with the colon after it. -/
def readName (s : List Char) : Option (List Nat × List Char) :=
  match skipGap s with
  | [] => none
  | c :: rest =>
    if c = '"' then
      match readUnits rest with
      | none => none
      | some (name, rest) => match skipGap rest with
        | [] => none
        | c :: rest => if c = ':' then some (name, rest) else none
    else none

end

/-- Reads a whole text.  Every second step takes at least one character, so that twice the length
of the text bounds the number of steps. -/
def read? (s : List Char) : Option JsonSyntax :=
  match readValue (2 * s.length + 2) s with
  | some (value, rest) => if (skipGap rest).isEmpty then some value else none
  | none => none

end JsonSyntax

end FormRules
