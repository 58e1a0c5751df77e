import FormRules.Date.Calendar
import FormRules.Number.Decimal

/-!
# Dates and times of TOML documents

A document may hold a date, a time, or both, the last with an offset from universal time.
`TomlDatetime.read?` reads one and `TomlDatetime.text` writes it in the usual form.

Embeds the `Datetime` of `toml`; a form refuses it as a value, with its text in the error.
-/

namespace FormRules

/-- A day of the calendar. -/
structure TomlDate where
  year : Nat
  month : Nat
  day : Nat
  deriving DecidableEq, Repr

/-- A time of day. -/
structure TomlTime where
  hour : Nat
  minute : Nat
  second : Nat
  nanosecond : Nat
  deriving DecidableEq, Repr

/-- How far a time is ahead of universal time. -/
inductive TomlOffset where
  | utc
  | minutes (n : Int)
  deriving DecidableEq, Repr

/-- A date, a time, or both, possibly with an offset. -/
inductive TomlDatetime where
  | date (date : TomlDate)
  | time (time : TomlTime)
  | dateTime (date : TomlDate) (time : TomlTime) (offset : Option TomlOffset)
  deriving DecidableEq, Repr

namespace TomlDatetime

-- Powers of natural numbers are those of core, also where Mathlib brings its own.
attribute [local instance (high)] instPowNat

/-! ### Reading -/

/-- Reads a number with a fixed count of digits. -/
def readFixed? : Nat → Nat → List Char → Option (Nat × List Char)
  | 0, n, s => some (n, s)
  | _ + 1, _, [] => none
  | count + 1, n, c :: s =>
    if c.isDigit then readFixed? count (Decimal.digitsValue n [c]) s else none

def after? (mark : Char) : List Char → Option (List Char)
  | [] => none
  | c :: s => if c = mark then some s else none

/-- Reads a year, a month and a day with dashes between them. -/
def readDate? (s : List Char) : Option (TomlDate × List Char) := do
  let (year, s) ← readFixed? 4 0 s
  let (month, s) ← readFixed? 2 0 (← after? '-' s)
  let (day, s) ← readFixed? 2 0 (← after? '-' s)
  if 1 ≤ month ∧ month ≤ 12 ∧ 1 ≤ day ∧ day ≤ Date.daysInMonth year month then
    return (⟨year, month, day⟩, s)
  else none

/-- The nanoseconds of the digits of a fraction; digits beyond the ninth do not count. -/
def nanoseconds (digits : List Char) : Nat :=
  let kept := digits.take 9
  Decimal.digitsValue 0 kept * 10 ^ (9 - kept.length)

/-- Reads the fraction of a second, if a point begins one. -/
def readFraction? (s : List Char) : Option (Nat × List Char) :=
  match after? '.' s with
  | none => some (0, s)
  | some rest => match Decimal.readDigits rest with
    | ([], _) => none
    | (digits, rest) => some (nanoseconds digits, rest)

/-- Reads seconds, if a colon begins them. -/
def readSeconds? (s : List Char) : Option ((Nat × Nat) × List Char) :=
  match after? ':' s with
  | none => some ((0, 0), s)
  | some rest => do
    let (second, rest) ← readFixed? 2 0 rest
    let (nanosecond, rest) ← readFraction? rest
    if second ≤ 60 then return ((second, nanosecond), rest) else none

/-- Reads an hour and a minute, and seconds if there are any. -/
def readTime? (s : List Char) : Option (TomlTime × List Char) := do
  let (hour, s) ← readFixed? 2 0 s
  let (minute, s) ← readFixed? 2 0 (← after? ':' s)
  let ((second, nanosecond), s) ← readSeconds? s
  if hour ≤ 23 ∧ minute ≤ 59 then return (⟨hour, minute, second, nanosecond⟩, s) else none

/-- Reads the hours and minutes of an offset. -/
def readShift? (s : List Char) : Option (Nat × List Char) := do
  let (hours, s) ← readFixed? 2 0 s
  let (minutes, s) ← readFixed? 2 0 (← after? ':' s)
  if hours ≤ 23 ∧ minutes ≤ 59 then return (hours * 60 + minutes, s) else none

/-- Reads the offset that ends a text; at the end there is none. -/
def readOffset? : List Char → Option (Option TomlOffset)
  | [] => some none
  | c :: s =>
    if (c = 'Z' ∨ c = 'z') ∧ s = [] then some (some .utc)
    else if c = '+' then
      match readShift? s with
      | some (n, []) => some (some (.minutes n))
      | _ => none
    else if c = '-' then
      match readShift? s with
      | some (n, []) => some (some (.minutes (-n)))
      | _ => none
    else none

/-- Whether a character may stand between a date and a time. -/
def isDelimiter (c : Char) : Bool := c == 'T' || c == 't' || c == ' '

/-- Reads a whole text as a date, a time, or both. -/
def read? (s : List Char) : Option TomlDatetime :=
  match readDate? s with
  | some (d, []) => some (.date d)
  | some (d, c :: s) =>
    if isDelimiter c then do
      let (t, s) ← readTime? s
      return .dateTime d t (← readOffset? s)
    else none
  | none => match readTime? s with
    | some (t, []) => some (.time t)
    | _ => none

/-! ### Writing -/

/-- A number with zeros before it up to a width. -/
def padded (width n : Nat) : String :=
  let digits := Nat.toDigits 10 n
  String.ofList (List.replicate (width - digits.length) '0' ++ digits)

/-- A year, a month and a day with dashes between them. -/
def dateText (date : TomlDate) : String :=
  padded 4 date.year ++ "-" ++ padded 2 date.month ++ "-" ++ padded 2 date.day

/-- The fraction of a second without zeros at its end; nothing where it is zero. -/
def fractionText (nanosecond : Nat) : String :=
  if nanosecond = 0 then ""
  else "." ++ String.ofList ((padded 9 nanosecond).toList.reverse.dropWhile (· == '0')).reverse

/-- An hour, a minute and a second with colons between them. -/
def timeText (time : TomlTime) : String :=
  padded 2 time.hour ++ ":" ++ padded 2 time.minute ++ ":" ++ padded 2 time.second ++
    fractionText time.nanosecond

/-- An offset as a letter or as signed hours and minutes. -/
def offsetText : Option TomlOffset → String
  | none => ""
  | some .utc => "Z"
  | some (.minutes n) =>
    (if n < 0 then "-" else "+") ++ padded 2 (n.natAbs / 60) ++ ":" ++ padded 2 (n.natAbs % 60)

/-- The text of a date, a time, or both. -/
def text : TomlDatetime → String
  | .date d => dateText d
  | .time t => timeText t
  | .dateTime d t offset => dateText d ++ "T" ++ timeText t ++ offsetText offset

end TomlDatetime

end FormRules
