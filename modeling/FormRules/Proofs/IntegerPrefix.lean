/-
**Integers at the start of texts.**

A text starts with an integer if a digit follows its leading blanks and its sign, whatever comes
then. For the text of a decimal literal these are the digits before the point.

* `parseIntegerPrefix_of_spells`: the integer that a literal starts with;
* `isSome_parseIntegerPrefix_iff`: a literal starts with an integer exactly if it has a digit before
  its point.
-/

import FormRules.Proofs.Decimal.Grammar
import FormRules.Value

namespace FormRules

namespace Decimal.Literal

variable {whole fraction mantissa tail : List Char} {exponent : Int}

/-- The digits before the point come first, and the point or what follows the digits ends them. -/
theorem IsMantissa.takeWhile_isDigit (isMantissa : IsMantissa whole fraction mantissa)
    {rest : List Char} (ends : ∀ letter ∈ rest.head?, isDigit letter = false) :
    (mantissa ++ rest).takeWhile isDigit = whole := by
  have point {behind : List Char} : ∀ letter ∈ ('.' :: behind).head?, isDigit letter = false := by
    rintro letter ⟨⟩
    decide
  cases isMantissa with
  | whole _ isRun => exact takeWhile_isDigit_append isRun ends
  | wholePoint _ isRun _ =>
    rw [List.append_assoc, List.cons_append]
    exact takeWhile_isDigit_append isRun point
  | pointFraction isRun _ _ =>
    rw [List.append_assoc, List.cons_append]
    exact takeWhile_isDigit_append isRun point

/-- Neither a power of ten nor a blank continues a run of digits. -/
theorem IsExponent.ends (isExponent : IsExponent exponent tail) {trail : List Char}
    (blank : ∀ letter ∈ trail, Text.isBlank letter = true) :
    ∀ letter ∈ (tail ++ trail).head?, isDigit letter = false := by
  intro letter first
  cases tail with
  | cons mark rest => exact (isExponent.head? first).1
  | nil =>
    refine Bool.eq_false_iff.2 fun digit => ?_
    have solid := isBlank_of_isDigit digit
    rw [blank letter (List.mem_of_head? first)] at solid
    cases solid

end Decimal.Literal

variable {text : List Char} {literal : Decimal.Literal}

/-- **The integer that a literal starts with** is made of the digits before its point. -/
theorem parseIntegerPrefix_of_spells (spells : literal.Spells (Text.trim text)) :
    parseIntegerPrefix text =
      if literal.whole = [] then none
      else some (Binary64.place?.withSign literal.negative
        (min (Decimal.numberOf literal.whole) greatestInt64)) := by
  obtain ⟨trail, blank, start⟩ := Text.exists_trimStart_eq text
  rw [parseIntegerPrefix, start]
  generalize Text.trim text = trimmed at spells
  cases spells with
  | @intro negative whole fraction sign mantissa tail exponent isSign isMantissa isExponent =>
    have unsigned := isMantissa.readSign_append (tail ++ trail)
    have digits := isMantissa.takeWhile_isDigit (isExponent.ends blank)
    rw [List.append_assoc, List.append_assoc, isSign.readSign_append unsigned]
    simp only [digits, Binary64.place?.withSign]

/-- **A literal starts with an integer exactly if it has a digit before its point.** -/
theorem isSome_parseIntegerPrefix_iff (spells : literal.Spells (Text.trim text)) :
    (parseIntegerPrefix text).isSome = true ↔ literal.whole ≠ [] := by
  rw [parseIntegerPrefix_of_spells spells]
  by_cases empty : literal.whole = []
  · simp [empty]
  · simp [empty]

end FormRules
