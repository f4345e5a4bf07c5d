/-
**The exact integer at the start of a text.**

The integer at the start of a text is that of all its digits, whatever their number, or the greatest
64-bit integer if that is smaller, with the sign in front of them. The least 64-bit integer has no
counterpart of the other sign, so it is never reached.

The same integer can be found by offsets into the bytes of the text and computed in 64 bits. Some
offsets fall inside characters and some products do not fit, but none of those that come up does.

* `Opens` says what a text is after its leading blanks and at most one sign, and
  `Opens.parseIntegerPrefix_eq`: how it goes on decides;
* `IntegerPrefix.read` works with offsets and 64 bits, and `IntegerPrefix.read_eq`: it never slips
  and finds the same integer;
* `parseIntegerPrefix_eq_clamp`: a literal starts with its mantissa, truncated and clamped;
* `Value.integerPrefix_saturates` is the result.
-/

import FormRules.Proofs.Decimal.Number
import FormRules.Proofs.IntegerPrefix
import FormRules.Proofs.Text.Bytes
import Mathlib.Data.Rat.Floor

namespace FormRules

/-! ### How a text opens -/

/-- **How a text opens**: with all its leading blanks and at most one sign, which may be negative.
The rest follows. -/
inductive Opens : List Char → Bool → List Char → Prop
  | unsigned {lead rest : List Char} (blank : ∀ letter ∈ lead, Text.isBlank letter = true)
      (solid : ∀ letter ∈ rest.head?, Text.isBlank letter = false)
      (noMinus : rest.head? ≠ some '-') (noPlus : rest.head? ≠ some '+') :
      Opens (lead ++ rest) false rest
  | plus {lead : List Char} (blank : ∀ letter ∈ lead, Text.isBlank letter = true)
      (rest : List Char) : Opens (lead ++ '+' :: rest) false rest
  | minus {lead : List Char} (blank : ∀ letter ∈ lead, Text.isBlank letter = true)
      (rest : List Char) : Opens (lead ++ '-' :: rest) true rest

section Opens

variable {text rest digits behind : List Char} {negative : Bool}

theorem Opens.readSign_eq (opens : Opens text negative rest) :
    Decimal.Literal.readSign (Text.trimStart text) = (negative, rest) := by
  cases opens with
  | unsigned blank solid noMinus noPlus =>
    rw [Text.trimStart_append_of_blank blank, Text.trimStart_eq_self solid,
      Decimal.Literal.readSign_of_unsigned noMinus noPlus]
  | plus blank | minus blank =>
    rw [Text.trimStart_append_of_blank blank, Text.trimStart_cons_of_not_blank (by decide)]
    rfl

theorem exists_opens (text : List Char) : ∃ negative rest, Opens text negative rest := by
  have blank : ∀ letter ∈ text.takeWhile Text.isBlank, Text.isBlank letter = true :=
    List.all_eq_true.1 List.all_takeWhile
  have stops := List.head?_dropWhile_not Text.isBlank text
  rw [← Text.takeWhile_append_trimStart text]
  rw [← Text.trimStart] at stops
  cases start : Text.trimStart text with
  | nil => exact ⟨_, _, .unsigned blank (by rintro _ ⟨⟩) (by rintro ⟨⟩) (by rintro ⟨⟩)⟩
  | cons letter others =>
    rw [start] at stops
    by_cases minus : letter = '-'
    · subst minus
      exact ⟨_, _, .minus blank others⟩
    by_cases plus : letter = '+'
    · subst plus
      exact ⟨_, _, .plus blank others⟩
    refine ⟨_, _, .unsigned blank ?_ ?_ ?_⟩
    · rintro _ ⟨⟩
      exact stops
    · exact fun same => minus (Option.some.inj same)
    · exact fun same => plus (Option.some.inj same)

theorem withSign_min (negative : Bool) (number : Nat) :
    Binary64.place?.withSign negative (min number greatestInt64) =
      (if negative then -1 else 1) * min (number : Int) (2 ^ 63 - 1) := by
  have greatest : greatestInt64 = 2 ^ 63 - 1 := rfl
  cases negative
  · rw [Binary64.place?.withSign, if_neg Bool.false_ne_true, if_neg Bool.false_ne_true, one_mul]
    omega
  · rw [Binary64.place?.withSign, if_pos rfl, if_pos rfl, neg_one_mul]
    omega

/-- The rest after the blanks and the sign decides. -/
theorem Opens.parseIntegerPrefix_eq (opens : Opens text negative rest) :
    parseIntegerPrefix text =
      if rest.takeWhile Decimal.isDigit = [] then none
      else some (Binary64.place?.withSign negative
        (min (Decimal.numberOf (rest.takeWhile Decimal.isDigit)) greatestInt64)) := by
  rw [parseIntegerPrefix, opens.readSign_eq]
  rfl

theorem takeWhile_isDigit_eq_nil_iff :
    rest.takeWhile Decimal.isDigit = [] ↔
      ∀ letter ∈ rest.head?, Decimal.isDigit letter = false := by
  cases rest with
  | nil => simp
  | cons letter others =>
    rw [List.takeWhile_cons]
    cases digit : Decimal.isDigit letter <;> simp [digit]

end Opens

/-! ### Offsets and 64 bits -/

namespace IntegerPrefix

/-- What can go wrong with offsets and 64-bit integers. -/
inductive Slip where
  /-- The offset is inside a character or behind the end of the text. -/
  | offset (text : String) (offset : Nat)
  /-- The product of the numbers does not fit 64 bits. -/
  | product (first second : Int64)

/-- Cuts a text at an offset. -/
def cut (text : String) (offset : Nat) : Except Slip (String × String) :=
  match Text.cutAt? text offset with
  | some parts => .ok parts
  | none => .error (.offset text offset)

/-- The product of two 64-bit integers. -/
def multiply (first second : Int64) : Except Slip Int64 :=
  if (first * second).toInt = first.toInt * second.toInt then
    .ok (first * second)
  else
    .error (.product first second)

/-- The sign that the first byte of a text stands for, and what follows it. -/
def readSign (text : String) : Except Slip (Int64 × String) :=
  if (Text.bytes text).head? = some '-'.toUInt8 then
    (cut text 1).map fun parts => (-1, parts.2)
  else if (Text.bytes text).head? = some '+'.toUInt8 then
    (cut text 1).map fun parts => (1, parts.2)
  else
    .ok (1, text)

/-- The 64-bit integer that a run of digits is, if it fits. -/
def int64Of? (digits : List Char) : Option Int64 :=
  if Decimal.numberOf digits ≤ greatestInt64 then
    some (.ofNat (Decimal.numberOf digits))
  else
    none

/-- The integer at the start of a text, found by offsets into its bytes and computed in 64 bits. -/
def read (text : String) : Except Slip (Option Int64) := do
  let (sign, unsigned) ← readSign (.ofList (Text.trimStart text.toList))
  let stop := Text.offsetOf (!Decimal.isDigit ·) unsigned.toList
  if stop = 0 then
    return none
  let (digits, _) ← cut unsigned stop
  return some (← multiply sign ((int64Of? digits.toList).getD Int64.maxValue))

theorem cut_append (front behind : String) :
    cut (front ++ behind) front.utf8ByteSize = .ok (front, behind) := by
  rw [cut, Text.cutAt?_append]

/-- A digit run that does not fit counts as the greatest 64-bit integer. -/
theorem toInt_getD_int64Of? (digits : List Char) :
    ((int64Of? digits).getD Int64.maxValue).toInt =
      (min (Decimal.numberOf digits) greatestInt64 : Nat) := by
  have greatest : greatestInt64 = 2 ^ 63 - 1 := rfl
  unfold int64Of?
  split
  · next fits =>
    rw [Option.getD_some, Int64.toInt_ofNat_of_lt (by omega), min_eq_left fits]
  · next tooLarge =>
    rw [Option.getD_none, Int64.toInt_maxValue, min_eq_right (Nat.le_of_not_le tooLarge)]
    rfl

/-- The sign of a number in 64 bits. -/
def signOf (negative : Bool) : Int64 :=
  if negative then -1 else 1

/-- **No product with a sign slips**: the one number without a counterpart of the other sign is
negative. -/
theorem multiply_signOf (negative : Bool) {size : Int64} {number : Nat}
    (same : size.toInt = number) :
    ∃ product, multiply (signOf negative) size = .ok product ∧
      product.toInt = Binary64.place?.withSign negative number := by
  have below : (number : Int) < 2 ^ 63 := same ▸ size.toInt_lt
  have exactly : (signOf negative).toInt * size.toInt =
      Binary64.place?.withSign negative number := by
    rw [same]
    cases negative
    · exact one_mul _
    · exact neg_one_mul _
  have fits : (signOf negative * size).toInt = (signOf negative).toInt * size.toInt := by
    rw [Int64.toInt_mul, exactly, Binary64.place?.withSign]
    refine Int.bmod_eq_of_le ?_ ?_ <;> cases negative <;> simp <;> omega
  exact ⟨_, if_pos fits, fits.trans exactly⟩

theorem head?_bytes_ofList_eq_some_iff {text : List Char} {mark : Char}
    (single : String.utf8EncodeChar mark = [mark.toUInt8]) :
    (Text.bytes (.ofList text)).head? = some mark.toUInt8 ↔ text.head? = some mark := by
  rw [Text.head?_bytes_eq_some_iff single, String.toList_ofList]

theorem cut_ofList_cons {mark : Char} (size : mark.utf8Size = 1) (rest : List Char) :
    cut (.ofList (mark :: rest)) 1 = .ok (.singleton mark, .ofList rest) := by
  have shape : String.ofList (mark :: rest) = .singleton mark ++ .ofList rest := by
    rw [← String.toList_inj]
    simp
  have := cut_append (.singleton mark) (.ofList rest)
  rwa [← shape, String.utf8ByteSize_singleton, size] at this

/-- The first byte of a text tells its sign, and behind a sign a text can be cut. -/
theorem readSign_ofList (text : List Char) :
    readSign (.ofList text) = .ok (signOf (Decimal.Literal.readSign text).1,
      .ofList (Decimal.Literal.readSign text).2) := by
  have minus := @head?_bytes_ofList_eq_some_iff text '-' rfl
  have plus := @head?_bytes_ofList_eq_some_iff text '+' rfl
  unfold readSign
  split
  · next isMinus =>
    obtain ⟨rest, rfl⟩ := List.head?_eq_some_iff.1 (minus.1 isMinus)
    rw [cut_ofList_cons rfl]
    rfl
  · next noMinus =>
    split
    · next isPlus =>
      obtain ⟨rest, rfl⟩ := List.head?_eq_some_iff.1 (plus.1 isPlus)
      rw [cut_ofList_cons rfl]
      rfl
    · next noPlus =>
      rw [Decimal.Literal.readSign_of_unsigned (mt minus.2 noMinus) (mt plus.2 noPlus)]
      rfl

theorem cut_offsetOf (kind : Char → Bool) (text : List Char) :
    cut (.ofList text) (Text.offsetOf kind text) =
      .ok (.ofList (text.takeWhile (!kind ·)), .ofList (text.dropWhile (!kind ·))) := by
  have shape : String.ofList text =
      .ofList (text.takeWhile (!kind ·)) ++ .ofList (text.dropWhile (!kind ·)) := by
    rw [← String.ofList_append, List.takeWhile_append_dropWhile]
  rw [Text.offsetOf_eq]
  nth_rewrite 1 [shape]
  exact cut_append _ _

/-- **Reading by offsets never slips**, and it finds the same integer. -/
theorem read_eq (text : String) :
    (read text).map (Option.map Int64.toInt) = .ok (parseIntegerPrefix text.toList) := by
  unfold read parseIntegerPrefix
  rw [readSign_ofList]
  obtain ⟨negative, unsigned⟩ := Decimal.Literal.readSign (Text.trimStart text.toList)
  have stop : Text.offsetOf (!Decimal.isDigit ·) unsigned = 0 ↔
      unsigned.takeWhile Decimal.isDigit = [] := by
    simpa using @Text.offsetOf_eq_zero_iff (!Decimal.isDigit ·) unsigned
  simp only [bind, Except.bind, String.toList_ofList, cut_offsetOf, Bool.not_not]
  by_cases nothing : unsigned.takeWhile Decimal.isDigit = []
  · rw [if_pos (stop.2 nothing), if_pos nothing]
    rfl
  · obtain ⟨product, multiplied, exactly⟩ := multiply_signOf negative
      (toInt_getD_int64Of? (unsigned.takeWhile Decimal.isDigit))
    rw [if_neg (mt stop.1 nothing), if_neg nothing, multiplied]
    exact congrArg (fun size => Except.ok (some size)) exactly

end IntegerPrefix

/-! ### Literals -/

/-- The whole part of a number: its fraction is dropped, so it is truncated toward zero. -/
def wholePart (exact : ℚ) : Int :=
  if exact < 0 then ⌈exact⌉ else ⌊exact⌋

/-- A fraction is dropped whatever the sign. With a minus sign, only zero is not negative. -/
theorem wholePart_signed (negative : Bool) (number : Nat) {part : ℚ} (nonneg : 0 ≤ part)
    (small : part < 1) :
    wholePart (signed negative (number + part)) = Binary64.place?.withSign negative number := by
  have floor : ⌊(number : ℚ) + part⌋ = number := by
    rw [Int.floor_eq_iff, Int.cast_natCast]
    exact ⟨le_add_of_nonneg_right nonneg, add_lt_add_right small _⟩
  cases negative with
  | false =>
    have notLess : ¬ (number : ℚ) + part < 0 :=
      not_lt.2 (add_nonneg (Nat.cast_nonneg number) nonneg)
    rw [signed_false, wholePart, if_neg notLess, floor]
    rfl
  | true =>
    rw [signed_true, wholePart, Int.ceil_neg, floor]
    split
    · rfl
    · next notLess =>
      have nothing : (number : ℚ) + part = 0 :=
        le_antisymm (neg_nonneg.1 (not_lt.1 notLess)) (add_nonneg (Nat.cast_nonneg number) nonneg)
      rw [nothing, Int.floor_zero] at floor
      rw [nothing, neg_zero, Int.floor_zero, Binary64.place?.withSign, if_pos rfl, ← floor,
        neg_zero]

namespace Decimal.Literal

variable {literal : Literal}

/-- A literal without its power of ten. -/
def mantissaPart (literal : Literal) : Literal :=
  { literal with exponent := 0 }

theorem wholePart_exact (isRun : IsRun (literal.whole ++ literal.fraction)) :
    wholePart literal.mantissaPart.exact =
      Binary64.place?.withSign literal.negative (numberOf literal.whole) := by
  have few : (numberOf literal.fraction : ℚ) < 10 ^ literal.fraction.length := by
    exact_mod_cast numberOf_lt (List.forall_mem_append.1 isRun).2
  have places : (0 : ℚ) < 10 ^ literal.fraction.length := by positivity
  rw [exact, size, mantissaPart, zpow_zero, mul_one]
  exact wholePart_signed _ _ (div_nonneg (Nat.cast_nonneg _) places.le)
    ((div_lt_one places).2 few)

end Decimal.Literal

/-- **A literal with a digit before its point starts with its mantissa**, truncated and clamped. -/
theorem parseIntegerPrefix_eq_clamp {text : List Char} {literal : Decimal.Literal}
    (spells : literal.Spells (Text.trim text)) (something : literal.whole ≠ []) :
    parseIntegerPrefix text =
      some (max (-(2 ^ 63 - 1)) (min (2 ^ 63 - 1) (wholePart literal.mantissaPart.exact))) := by
  have greatest : greatestInt64 = 2 ^ 63 - 1 := rfl
  rw [parseIntegerPrefix_of_spells spells, if_neg something,
    Decimal.Literal.wholePart_exact spells.isRun, Binary64.place?.withSign,
    Binary64.place?.withSign]
  refine congrArg some ?_
  split <;> omega

namespace Value

/-- **The integer at the start of a text.** Every text opens with blanks and at most one sign, and
the next letter decides: without a digit there is no integer, and otherwise it is that of the whole
run of digits, up to the greatest 64-bit integer, with the sign. Offsets into the bytes and 64 bits
suffice to find it. A text that is a number spells a literal, and if that has a digit before its
point, the integer is its mantissa, truncated and clamped. -/
theorem integerPrefix_saturates (content : String) :
    (∃ negative rest, Opens content.toList negative rest) ∧
    (∀ negative rest, Opens content.toList negative rest →
      ((text content).toIntegerPrefix? = none ↔
        ∀ letter ∈ rest.head?, Decimal.isDigit letter = false) ∧
      ∀ digits behind, rest = digits ++ behind → digits ≠ [] → Decimal.IsRun digits →
        (∀ letter ∈ behind.head?, Decimal.isDigit letter = false) →
        (text content).toIntegerPrefix? =
          some ((if negative then -1 else 1) *
            min (Decimal.numberOf digits : Int) (2 ^ 63 - 1))) ∧
    (IntegerPrefix.read content).map (Option.map Int64.toInt) =
      .ok (text content).toIntegerPrefix? ∧
    ((parseNumber content.toList).isSome = true →
      ∃ literal : Decimal.Literal, literal.Spells (Text.trim content.toList)) ∧
    ∀ literal : Decimal.Literal, literal.Spells (Text.trim content.toList) → literal.whole ≠ [] →
      (text content).toIntegerPrefix? =
        some (max (-(2 ^ 63 - 1))
          (min (2 ^ 63 - 1) (wholePart literal.mantissaPart.exact))) := by
  refine ⟨exists_opens _, fun negative rest opens => ⟨?_, ?_⟩, IntegerPrefix.read_eq content, ?_,
    fun literal spells something => parseIntegerPrefix_eq_clamp spells something⟩
  · rw [toIntegerPrefix?, opens.parseIntegerPrefix_eq, ← takeWhile_isDigit_eq_nil_iff]
    simp
  · rintro digits behind rfl something isRun ends
    rw [toIntegerPrefix?, opens.parseIntegerPrefix_eq,
      Decimal.Literal.takeWhile_isDigit_append isRun ends, if_neg something, withSign_min]
  · intro isNumber
    obtain ⟨literal, spells, _⟩ := isSome_parseNumber_iff.1 isNumber
    exact ⟨literal, spells⟩

/-- A literal that starts beyond 64 bits, and a blank behind a sign. -/
theorem integerPrefix_saturates_beyond :
    let content := "\u3000-9223372036854775809.7e3"
    let literal : Decimal.Literal := ⟨true, "9223372036854775809".toList, ['7'], 3⟩
    Opens content.toList true "9223372036854775809.7e3".toList ∧
      (text content).toIntegerPrefix? = some (-9223372036854775807) ∧
    (parseNumber content.toList).isSome = true ∧
      literal.Spells (Text.trim content.toList) ∧ literal.whole ≠ [] ∧
      (text content).toIntegerPrefix? = some (max (-(2 ^ 63 - 1))
        (min (2 ^ 63 - 1) (wholePart literal.mantissaPart.exact))) ∧
    Opens "+ 7".toList false " 7".toList ∧ (text "+ 7").toIntegerPrefix? = none := by
  intro content literal
  have letters : content.toList = ['\u3000'] ++ '-' :: "9223372036854775809.7e3".toList := by
    decide +kernel
  have opens : Opens content.toList true "9223372036854775809.7e3".toList :=
    letters ▸ .minus (List.forall_mem_singleton.2 (by decide)) _
  have plus : Opens "+ 7".toList false " 7".toList := .plus (List.forall_mem_nil _) [' ', '7']
  have isNumber : (parseNumber content.toList).isSome = true := by decide +kernel
  have spells : literal.Spells (Text.trim content.toList) :=
    Decimal.Literal.read?_eq_some_iff.1 (by decide +kernel)
  have isRun : Decimal.IsRun "9223372036854775809".toList := List.all_eq_true.1 (by decide)
  obtain ⟨_, starts, _, _, ofLiteral⟩ := integerPrefix_saturates content
  obtain ⟨_, startsNot, _⟩ := integerPrefix_saturates "+ 7"
  have saturated := (starts true _ opens).2 "9223372036854775809".toList ['.', '7', 'e', '3'] rfl
    (by decide) isRun (by rintro _ ⟨⟩; rfl)
  have blankBehind := (startsNot false [' ', '7'] plus).1.2 (by rintro _ ⟨⟩; rfl)
  exact ⟨opens, saturated.trans (by decide +kernel), isNumber, spells, by decide,
    ofLiteral literal spells (by decide), plus, blankBehind⟩

end Value

end FormRules
