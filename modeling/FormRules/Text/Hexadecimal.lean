/-
**Hexadecimal digits.**

* `hexValue?_hexDigit`: a written digit reads back as its value.
-/

namespace FormRules.Text

/-- The value of a hexadecimal digit of either case. -/
def hexValue? (letter : Char) : Option Nat :=
  if '0' ≤ letter ∧ letter ≤ '9' then some (letter.toNat - '0'.toNat)
  else if 'a' ≤ letter ∧ letter ≤ 'f' then some (letter.toNat - 'a'.toNat + 10)
  else if 'A' ≤ letter ∧ letter ≤ 'F' then some (letter.toNat - 'A'.toNat + 10)
  else none

/-- A lower case hexadecimal digit. -/
def hexDigit (value : Nat) : Char :=
  if value < 10 then Char.ofNat ('0'.toNat + value) else Char.ofNat ('a'.toNat + (value - 10))

/-- A number in lower case hexadecimal digits, without leading zeros. -/
def hexadecimal (number : Nat) : List Char :=
  Nat.toDigits 16 number

/-- A written digit reads back as its value. -/
theorem hexValue?_hexDigit : ∀ value : Fin 16, hexValue? (hexDigit value) = some value.val := by
  decide

end FormRules.Text
