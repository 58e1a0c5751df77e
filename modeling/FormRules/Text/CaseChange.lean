import FormRules.Text.CaseFold
import FormRules.Text.Property

/-!
# Characters that a change of case affects

Most characters that a change of case affects have a counterpart in the other case, and whether they
count as lowercase or uppercase tells which change it is.  The tables hold the rest: characters that
become several, and small letters that folding replaces by others.

The tables are those of Unicode 16.0, as the `regex` library has them.
-/

namespace FormRules.Text

/-- Whether some other character differs from this one only in case. -/
def hasCaseVariant (c : Char) : Bool := !(caseVariants c).isEmpty

/-- Small characters without a single counterpart, which change all the same in capitals. -/
def changesInCapitals : Runs Bool := Runs.ofRanges
  "131 149 1F0 587 1E96-1E9A 1F50 1F52 1F54 1F56 1FB2 1FB4 1FB6-1FB7 1FC2 1FC4 1FC6-1FC7 1FD2
    1FD6-1FD7 1FE2 1FE4 1FE6-1FE7 1FF2 1FF4 1FF6-1FF7 FB00-FB04 FB13-FB17"

/-- Digraphs in capitals, whose second part is small in a title. -/
def capitalDigraph : Runs Bool := Runs.ofRanges
  "1C4 1C7 1CA 1F1"

/-- Small characters that folding replaces. -/
def foldedSmall : Runs Bool := Runs.ofRanges
  "B5 DF 149 17F 345 3C2 3D0-3D1 3D5-3D6 3F0-3F1 3F5 587 13F8-13FD 1C80-1C88 1E9A-1E9B 1F80-1F87
    1F90-1F97 1FA0-1FA7 1FB2-1FB4 1FB7 1FC2-1FC4 1FC7 1FF2-1FF4 1FF7 AB70-ABBF FB00-FB06 FB13-FB17"

/-- Capitals to which folding leads, so that they stay. -/
def foldedCapital : Runs Bool := Runs.ofRanges
  "13A0-13F5"

/-- Whether a character changes in small letters.  The capital with a dot becomes two characters. -/
def changesWhenLowercased (c : Char) : Bool :=
  c.toNat == 0x130 || (hasCaseVariant c && (isUppercase c || hasCategory [.titlecaseLetter] c))

def changesWhenUppercased (c : Char) : Bool :=
  changesInCapitals.get c.toNat ||
    (hasCaseVariant c && (isLowercase c || hasCategory [.titlecaseLetter] c))

def changesWhenTitlecased (c : Char) : Bool :=
  capitalDigraph.get c.toNat || (changesWhenUppercased c && !hasCategory [.titlecaseLetter] c &&
    !georgianSmall.get c.toNat)

/-- Whether a character changes when differences of case are removed. -/
def changesWhenCasefolded (c : Char) : Bool :=
  foldedSmall.get c.toNat || (changesWhenLowercased c && !foldedCapital.get c.toNat)

def changesWhenCasemapped (c : Char) : Bool :=
  changesWhenLowercased c || changesWhenUppercased c || changesWhenTitlecased c

/-- What changes in small letters, but for capitals to which folding leads, changes when folded. -/
theorem changesWhenCasefolded_of_lowercased {c : Char} (h : changesWhenLowercased c = true)
    (hc : foldedCapital.get c.toNat = false) : changesWhenCasefolded c = true := by
  simp only [changesWhenCasefolded, h, hc, Bool.not_false, Bool.and_true, Bool.or_true]

end FormRules.Text
