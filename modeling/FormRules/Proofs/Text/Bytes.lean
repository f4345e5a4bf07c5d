/-
**The bytes of texts.**

A text is written as bytes in UTF-8 and read back from them. UTF-8 keeps the order of code points: a
letter that comes first in Unicode is written with bytes that come first. So texts that are sorted
by their letters are sorted by their bytes as well.

* `Text.fromUTF8?_toUTF8`: a text reads back from its bytes;
* `Text.encode_append_lt`: the bytes of a smaller letter come first, whatever follows either of
  them;
* `Text.bytes_lt_iff`: the two orders of texts are the same;
* `Text.eq_of_head?_encode`: a letter of one byte is known by the first byte of a text;
* `Text.cutAt?` cuts a text at an offset into its bytes, which does not work inside a letter, and
  `Text.cutAt?_append`: behind the bytes of some letters it works.
-/

import Mathlib.Data.String.Basic

namespace FormRules.Text

/-- A text reads back from its bytes. -/
theorem fromUTF8?_toUTF8 (text : String) : String.fromUTF8? text.toUTF8 = some text := by
  have valid : text.toUTF8.IsValidUTF8 := text.isValidUTF8
  rw [String.fromUTF8?, dif_pos (by simpa using valid)]
  rfl

/-! ### The order of bytes -/

/-- The bytes of a text in UTF-8. -/
def bytes (text : String) : List UInt8 :=
  text.toUTF8.data.toList

theorem bytes_eq (text : String) : bytes text = text.toList.flatMap String.utf8EncodeChar := by
  rw [bytes, String.toUTF8_eq_toByteArray, ← String.utf8Encode_toList, List.utf8Encode,
    List.data_toByteArray, List.toList_toArray]

section Bytes

variable {small large : Nat} {first second : List UInt8}

theorem ofNat_cons_lt (below : small < large) (inRange : large < 256) :
    UInt8.ofNat small :: first < UInt8.ofNat large :: second := by
  refine List.cons_lt_cons_iff.2 (Or.inl ?_)
  rw [UInt8.lt_iff_toNat_lt, UInt8.toNat_ofNat', UInt8.toNat_ofNat']
  omega

/-- A leading byte that is no larger leaves the decision to the rest if it is the same. -/
theorem ofNat_cons_lt_of_le (atMost : small ≤ large) (inRange : large < 256)
    (later : small = large → first < second) :
    UInt8.ofNat small :: first < UInt8.ofNat large :: second := by
  rcases Nat.lt_or_eq_of_le atMost with below | same
  · exact ofNat_cons_lt below inRange
  · rw [same]
    exact List.cons_lt_cons_iff.2 (Or.inr ⟨rfl, later same⟩)

end Bytes

/-- **The bytes of a smaller letter come first**, whatever follows. The leading byte tells how many
bytes there are, so letters of different lengths differ in it. With the same length they differ in
the first byte that carries a digit in which they differ. -/
theorem encode_append_lt {first second : Char} (below : first < second)
    (behindFirst behindSecond : List UInt8) :
    String.utf8EncodeChar first ++ behindFirst < String.utf8EncodeChar second ++ behindSecond := by
  have bound : second.val.toNat < 0x110000 := by
    rcases second.valid with low | ⟨_, high⟩
    · exact Nat.lt_trans low (by decide)
    · exact high
  have below : first.val.toNat < second.val.toNat := below
  unfold String.utf8EncodeChar
  generalize first.val.toNat = small at below
  generalize second.val.toNat = large at below bound
  dsimp only
  split_ifs <;> simp only [List.cons_append, List.nil_append]
  all_goals try first | omega | exact ofNat_cons_lt (by omega) (by omega)
  · refine ofNat_cons_lt_of_le (by omega) (by omega) fun lead => ?_
    exact ofNat_cons_lt (by omega) (by omega)
  · refine ofNat_cons_lt_of_le (by omega) (by omega) fun lead => ?_
    refine ofNat_cons_lt_of_le (by omega) (by omega) fun next => ?_
    exact ofNat_cons_lt (by omega) (by omega)
  · refine ofNat_cons_lt_of_le (by omega) (by omega) fun lead => ?_
    refine ofNat_cons_lt_of_le (by omega) (by omega) fun next => ?_
    refine ofNat_cons_lt_of_le (by omega) (by omega) fun third => ?_
    exact ofNat_cons_lt (by omega) (by omega)

theorem flatMap_encode_lt {first second : List Char} (below : first < second) :
    first.flatMap String.utf8EncodeChar < second.flatMap String.utf8EncodeChar := by
  induction below with
  | @nil letter rest =>
    rw [List.flatMap_nil, List.flatMap_cons]
    cases written : String.utf8EncodeChar letter with
    | nil => exact absurd written String.utf8EncodeChar_ne_nil
    | cons lead behind => exact List.nil_lt_cons lead _
  | rel below =>
    rw [List.flatMap_cons, List.flatMap_cons]
    exact encode_append_lt below _ _
  | cons _ ih =>
    rw [List.flatMap_cons, List.flatMap_cons]
    exact List.append_left_lt ih

/-- **Texts have the order of their bytes.** -/
theorem bytes_lt_iff {first second : String} : bytes first < bytes second ↔ first < second := by
  have keeps {first second : String} (below : first < second) : bytes first < bytes second := by
    rw [bytes_eq, bytes_eq]
    exact flatMap_encode_lt below
  constructor
  · intro below
    rcases lt_trichotomy first second with less | same | more
    · exact less
    · rw [same] at below
      exact absurd below (List.lt_irrefl _)
    · exact absurd below (List.lt_asymm (keeps more))
  · exact keeps

/-- **A letter of one byte is known by this byte**: no other letter is written with it in front.
With the same byte in front, what follows could be chosen against the order of the letters. -/
theorem eq_of_head?_encode {letter mark : Char} {byte : UInt8}
    (single : String.utf8EncodeChar mark = [byte])
    (head : (String.utf8EncodeChar letter).head? = some byte) : letter = mark := by
  obtain ⟨others, shape⟩ := List.head?_eq_some_iff.1 head
  rcases lt_trichotomy letter mark with below | same | above
  · have first := encode_append_lt below [] []
    rw [single, shape] at first
    exact absurd first (by simp)
  · exact same
  · have first := encode_append_lt above others []
    rw [single, shape] at first
    exact absurd first (by simp)

theorem head?_bytes_eq_some_iff {text : String} {mark : Char} {byte : UInt8}
    (single : String.utf8EncodeChar mark = [byte]) :
    (bytes text).head? = some byte ↔ text.toList.head? = some mark := by
  rw [bytes_eq]
  cases text.toList with
  | nil => simp
  | cons letter rest =>
    rw [List.flatMap_cons, List.head?_append_of_ne_nil _ String.utf8EncodeChar_ne_nil,
      List.head?_cons, Option.some.injEq]
    constructor
    · exact eq_of_head?_encode single
    · rintro rfl
      rw [single, List.head?_cons]

/-! ### Offsets -/

/-- The parts of a text in front of an offset into its bytes and behind it, none if the offset is
inside a letter or behind the end. -/
def cutAt? (text : String) (offset : Nat) : Option (String × String) :=
  if valid : (⟨offset⟩ : String.Pos.Raw).IsValid text then
    let position := text.pos ⟨offset⟩ valid
    some ((text.sliceTo position).copy, (text.sliceFrom position).copy)
  else
    none

/-- The offset of the first letter of a kind, the number of bytes if there is none. -/
def offsetOf (kind : Char → Bool) : List Char → Nat
  | [] => 0
  | letter :: rest => if kind letter then 0 else letter.utf8Size + offsetOf kind rest

/-- **A text can be cut behind the bytes of its first letters.** -/
theorem cutAt?_append (front behind : String) :
    cutAt? (front ++ behind) front.utf8ByteSize = some (front, behind) := by
  have valid : (⟨front.utf8ByteSize⟩ : String.Pos.Raw).IsValid (front ++ behind) :=
    String.Pos.Raw.isValid_iff_exists_append.2 ⟨front, behind, rfl, rfl⟩
  have splits : ((front ++ behind).pos _ valid).Splits front behind := ⟨rfl, String.offset_pos⟩
  obtain ⟨sameFront, sameBehind⟩ := (String.Pos.splits _).eq splits
  rw [cutAt?, dif_pos valid]
  exact congrArg some (Prod.ext sameFront sameBehind)

/-- In front of the first letter of a kind stand the others. -/
theorem offsetOf_eq (kind : Char → Bool) (text : List Char) :
    offsetOf kind text = (String.ofList (text.takeWhile (!kind ·))).utf8ByteSize := by
  induction text with
  | nil => rfl
  | cons letter rest ih =>
    rw [offsetOf, List.takeWhile_cons]
    cases kind letter with
    | true => rfl
    | false => simp [ih]

theorem offsetOf_eq_zero_iff {kind : Char → Bool} {text : List Char} :
    offsetOf kind text = 0 ↔ text.takeWhile (!kind ·) = [] := by
  rw [offsetOf_eq, String.utf8ByteSize_eq_zero_iff, String.ofList_eq_empty_iff]

end FormRules.Text
