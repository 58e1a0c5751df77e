import FormRules.Pattern.Positions

/-!
# Web addresses

The common shape of a web address: an optional scheme, an optional `www.`, a host that ends in a
top-level domain of two to four lower-case letters, and an optional path or query.

Embeds `is_url` (`isWebAddress`) and `URL_REGEX` (`Url.grammar`); specification, section 6.
-/

namespace FormRules

open FormRules.Pattern

namespace Url

/-- ASCII letters and digits. -/
def alphanumeric : CharSet := .union (.range 'a' 'z') (.union (.range 'A' 'Z') (.range '0' '9'))

def hostChars : CharSet := .union alphanumeric (.ofList "-@:%._+~#=".toList)

def pathChars : CharSet := .union alphanumeric (.ofList "-@:%_+.~#?&/=".toList)

/-- The scheme, if there is one. -/
def scheme : Regex :=
  .optional (.seqs [.text "http".toList, .optional (.char 's'), .text "://".toList])

/-- The grammar of web addresses. -/
def grammar : Regex :=
  .seqs [scheme, .optional (.text "www.".toList),
    .repeated (.chars hostChars) 2 (some 256) true, .char '.',
    .repeated (.chars (.range 'a' 'z')) 2 (some 4) true, .look (.boundary true),
    .star (.chars pathChars)]

end Url

/-- Whether a value, as it stands, is a web address. -/
def isWebAddress (value : String) : Bool := Url.grammar.matchesWhole value.toList

end FormRules
