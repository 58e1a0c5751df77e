import FormRules.Proofs.Number.Sign

/-!
# Which texts are numbers

Two readers see a value one after the other: the grammar of decimal literals, and the reader of
floating-point numbers, which takes words for what is not finite as well.  The second takes all that
the first lets through, so that no literal is lost between them, and the words do not get to it.
-/

namespace FormRules

open FormRules.Text FormRules.Pattern

namespace Numeral

theorem exists_numberOf?_iff (value : String) :
    (∃ x, numberOf? value = some x) ↔ ∃ l : Literal, l.text = trim value.toList := by
  rw [← matchesWhole_iff_literal]
  simp only [numberOf?]
  split
  · rename_i hgrammar
    obtain ⟨d, -, hread⟩ := exists_read? hgrammar
    exact iff_of_true ⟨_, hread⟩ hgrammar
  · rename_i hgrammar
    exact iff_of_false (by simp) hgrammar

/-- A value is read as a number exactly if it is, trimmed, a decimal literal.  The reader of
floating-point numbers fails on no literal and takes each for a decimal, so that none is read as
something that is no number. -/
theorem numberOf?_recognizes (value : String) :
    ((∃ x, numberOf? value = some x) ↔ ∃ l : Literal, l.text = trim value.toList) ∧
      numberOf? value =
        (if grammar.matchesWhole (trim value.toList) then Binary64.read? (trim value.toList)
          else none) ∧
      (∀ s, grammar.matchesWhole s = true →
        ∃ d, Decimal.read? s = some d ∧ Binary64.read? s = some d.toBinary64) ∧
      ∀ x, numberOf? value = some x → x.isNaN = false := by
  refine ⟨exists_numberOf?_iff value, rfl, ?_, ?_⟩
  · intro s hs
    exact exists_read? hs
  · intro x hx
    exact isNaN_of_numberOf? hx

/-- A bare fraction with an exponent that is out of reach. -/
theorem numberOf?_recognizes_overflow :
    numberOf? "\t-.5E+0099999 " = some ⟨true, Binary64.infinityCode⟩ ∧
      (∃ l : Literal, l.text = trim "\t-.5E+0099999 ".toList) ∧
      Binary64.isNaN ⟨true, Binary64.infinityCode⟩ = false := by
  have hread : numberOf? "\t-.5E+0099999 " = some ⟨true, Binary64.infinityCode⟩ := by
    decide +kernel
  obtain ⟨hliteral, -, -, hnumber⟩ := numberOf?_recognizes "\t-.5E+0099999 "
  exact ⟨hread, hliteral.1 ⟨_, hread⟩, hnumber _ hread⟩

/-- The reader takes words that are no literals. -/
example : (Binary64.read? "-NaN".toList).any Binary64.isNaN = true ∧ numberOf? "-NaN" = none := by
  decide +kernel

end Numeral

end FormRules
