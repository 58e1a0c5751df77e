import FormRules.Pattern.Positions
import FormRules.Text.Blank

/-!
# Email addresses

An address is a local part and a domain around its last at sign.  The local part is made of atoms
joined by dots and has at most 64 characters; the domain has at least two labels, none of which
starts or ends with a hyphen or is longer than 63 characters.

Embeds `is_email` (`isEmailAddress`) with its limits `MAX_LOCAL_LENGTH` and `MAX_EMAIL_LENGTH`,
`EMAIL_LOCAL_REGEX` (`localGrammar`) and `DOMAIN_LABEL_REGEX` (`labelGrammar`); specification,
section 6.
-/

namespace FormRules

open FormRules.Text FormRules.Pattern

namespace Email

/-- The greatest length of an address. -/
def addressLimit : Nat := 320

/-- The greatest length of a local part. -/
def localPartLimit : Nat := 64

/-- Cuts a text at its last `mark`. -/
def splitAtLast? (mark : Char) : List Char → Option (List Char × List Char)
  | [] => none
  | c :: rest => match splitAtLast? mark rest with
    | some (first, last) => some (c :: first, last)
    | none => if c = mark then some ([], rest) else none

/-- Cuts a text at every `mark`. -/
def splitOn (mark : Char) : List Char → List (List Char)
  | [] => [[]]
  | c :: rest =>
    if c = mark then [] :: splitOn mark rest
    else match splitOn mark rest with
      | [] => [[c]]
      | part :: parts => (c :: part) :: parts

theorem splitAtLast?_append {mark : Char} {s first last : List Char}
    (h : splitAtLast? mark s = some (first, last)) : s = first ++ mark :: last := by
  induction s generalizing first last with
  | nil => simp [splitAtLast?] at h
  | cons c s ih =>
    unfold splitAtLast? at h
    split at h
    · rename_i first' last' hs
      obtain ⟨rfl, rfl⟩ := Prod.mk.inj (Option.some.inj h)
      rw [ih hs]
      rfl
    · split at h
      · rename_i hc
        obtain ⟨rfl, rfl⟩ := Prod.mk.inj (Option.some.inj h)
        rw [hc]
        rfl
      · simp at h

theorem splitOn_ne_nil (mark : Char) (s : List Char) : splitOn mark s ≠ [] := by
  cases s with
  | nil => simp [splitOn]
  | cons c s =>
    unfold splitOn
    split
    · simp
    · split <;> simp

/-- ASCII letters and digits. -/
def alphanumeric : CharSet := .union (.range 'A' 'Z') (.union (.range 'a' 'z') (.range '0' '9'))

/-- The characters of an atom of the local part. -/
def atomChars : CharSet := .union alphanumeric (.ofList "!#$%&'*+/=?^_\x60\x7b|\x7d~-".toList)

/-- The grammar of local parts: atoms joined by single dots. -/
def localGrammar : Regex :=
  .seq (.plus (.chars atomChars)) (.star (.seq (.char '.') (.plus (.chars atomChars))))

def labelGrammar : Regex :=
  .seq (.chars alphanumeric)
    (.optional (.seq (.repeated (.chars (.union alphanumeric (.single '-'))) 0 (some 61) true)
      (.chars alphanumeric)))

/-- The length of a text in bytes of UTF-8. -/
def byteLength (s : List Char) : Nat := (String.ofList s).utf8ByteSize

def isLocalPart (s : List Char) : Bool :=
  byteLength s ≤ localPartLimit && localGrammar.matchesWhole s

/-- Whether a text is a domain. -/
def isDomain (s : List Char) : Bool :=
  let labels := splitOn '.' s
  2 ≤ labels.length && labels.all fun label => labelGrammar.matchesWhole label

end Email

/-- Whether a value, trimmed, is an email address. -/
def isEmailAddress (value : String) : Bool :=
  let s := trim value.toList
  Email.byteLength s ≤ Email.addressLimit &&
    match Email.splitAtLast? '@' s with
    | some (localPart, domain) => Email.isLocalPart localPart && Email.isDomain domain
    | none => false

end FormRules
