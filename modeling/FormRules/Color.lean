import FormRules.Pattern.Positions
import FormRules.Text.Blank

/-!
# Colours

A colour is written in one of five formats: hexadecimal digits, or components with commas between
them, either bare or in parentheses after the format's name.  Each kind of component has a grammar
that bounds its number.

Embeds `is_color` (`ColorFormat.accepts`), `ColorFormat` with `from_name_or_default`
(`ColorFormat.chosen`) and `from_str` (`ColorFormat.ofName?`), `UnknownColorFormat`, and
`color_pattern` with its components `RGB_CHANNEL`, `HUE`, `PERCENT`, `ALPHA` and `SEP` (`channel`,
`hue`, `percent`, `alpha` and `comma`); specification, section 6.
-/

namespace FormRules

open FormRules.Text FormRules.Pattern

/-- A notation for colours. -/
inductive ColorFormat
  | hex
  | rgb
  | rgba
  | hsl
  | hsla
  deriving DecidableEq, Repr, Inhabited

structure UnknownFormat where
  name : String
  deriving DecidableEq, Repr

/-- The wording of the error. -/
def UnknownFormat.message (e : UnknownFormat) : String :=
  "Unknown color format: " ++ e.name

namespace ColorFormat

/-- All formats, in their usual order. -/
def all : List ColorFormat := [.hex, .rgb, .rgba, .hsl, .hsla]

def name : ColorFormat → String
  | .hex => "hex"
  | .rgb => "rgb"
  | .rgba => "rgba"
  | .hsl => "hsl"
  | .hsla => "hsla"

theorem mem_all (format : ColorFormat) : format ∈ all := by
  cases format <;> decide

theorem name_injective {a b : ColorFormat} (h : a.name = b.name) : a = b := by
  cases a <;> cases b <;> first | rfl | exact absurd h (by decide)

def ofName? (name : String) : Except UnknownFormat ColorFormat :=
  match all.find? fun format => format.name == name with
  | some format => .ok format
  | none => .error ⟨name⟩

/-- The format with a given name, and hexadecimal digits where there is no such format or no
name. -/
def chosen (name : Option String) : ColorFormat :=
  match name with
  | none => .hex
  | some name => match ofName? name with
    | .ok format => format
    | .error _ => .hex

theorem ofName?_name (format : ColorFormat) : ofName? format.name = .ok format := by
  cases format <;> rfl

end ColorFormat

namespace Color

/-! ### Components -/

/-- A decimal digit of any script. -/
def digit : Regex := .chars (.property isDecimalDigit)

/-- A digit between two ASCII digits. -/
def among (first last : Char) : Regex := .chars (.range first last)

/-- Up to two digits after an optional zero. -/
def short : Regex := .seqs [.optional (.char '0'), .optional digit, digit]

/-- A number up to 255. -/
def channel : Regex :=
  .alts [.char '0', .text "255".toList, .seq (.text "25".toList) (among '0' '4'),
    .seqs [.char '2', among '0' '4', digit], .seqs [.char '1', digit, digit], short]

/-- A number up to 360. -/
def hue : Regex :=
  .alts [.char '0', .text "360".toList, .seq (.text "35".toList) digit,
    .seqs [.char '3', among '0' '4', digit], .seqs [.chars (.ofList ['1', '2']), digit, digit],
    short]

/-- A number up to 100 with a percent sign. -/
def percent : Regex :=
  .seq (.alts [.char '0', .text "100".toList, .repeated digit 1 (some 2) true]) (.char '%')

/-- One, or less than one with one decimal. -/
def alpha : Regex :=
  .alt (.seqs [.optional (.char '0'), .char '.', digit])
    (.seq (.char '1') (.optional (.text ".0".toList)))

/-- A comma with blank characters around it. -/
def comma : Regex :=
  let blank := Regex.star (.chars (.property isBlank))
  .seqs [blank, .char ',', blank]

/-- Components with commas between them. -/
def separated : List Regex → Regex
  | [] => .empty
  | [r] => r
  | r :: rest => .seqs [r, comma, separated rest]

/-- Components in parentheses after a name, or bare. -/
def functional (name : String) (components : List Regex) : Regex :=
  let body := separated components
  .alt (.seqs [.text name.toList, .char '(', body, .char ')']) body

/-- One hexadecimal digit. -/
def hexDigit : Regex :=
  .chars (.union (.range 'A' 'F') (.union (.range 'a' 'f') (.range '0' '9')))

def grammar : ColorFormat → Regex
  | .hex => .seq (.optional (.char '#'))
      (.alt (.repeated hexDigit 6 (some 6) true) (.repeated hexDigit 3 (some 3) true))
  | .rgb => functional "rgb" [channel, channel, channel]
  | .rgba => functional "rgba" [channel, channel, channel, alpha]
  | .hsl => functional "hsl" [hue, percent, percent]
  | .hsla => functional "hsla" [hue, percent, percent, alpha]

end Color

/-- Whether a value, trimmed, is a colour in the format. -/
def ColorFormat.accepts (format : ColorFormat) (value : String) : Bool :=
  (Color.grammar format).matchesWhole (trim value.toList)

end FormRules
