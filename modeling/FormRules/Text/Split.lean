/-
**Cutting a text at a separator.**

* `pieces` cuts at every occurrence, `splitFirst` at the first and `splitLast` at the last one;
* `pieces_ne_nil`: a text has at least one piece;
* `intercalate_pieces`: joining the pieces with the separator gives the text back, and
  `pieces_intercalate`: parts without the separator are the pieces of their joined text;
* `pieces_append_cons`: a separator cuts the pieces of both sides apart, and
  `pieces_flatMap_append`: with a separator behind every part the last piece is empty;
* `splitFirst_of_mem`: the first cut is where the separator first stands, and
  `splitFirst_append_cons`: it is the one without a separator in front of it;
* `splitLast_eq_some_iff`: the last cut is the one without a separator behind it.
-/

namespace FormRules.Text

/-- The texts between the occurrences of a separator, in order. -/
def pieces (separator : Char) : List Char → List (List Char)
  | [] => [[]]
  | letter :: rest =>
    if letter = separator then
      [] :: pieces separator rest
    else
      match pieces separator rest with
      | [] => [[letter]]
      | first :: others => (letter :: first) :: others

/-- The texts before and after the first occurrence of a separator. -/
def splitFirst (separator : Char) : List Char → Option (List Char × List Char)
  | [] => none
  | letter :: rest =>
    if letter = separator then
      some ([], rest)
    else
      (splitFirst separator rest).map fun parts => (letter :: parts.1, parts.2)

/-- The texts before and after the last occurrence of a separator. -/
def splitLast (separator : Char) : List Char → Option (List Char × List Char)
  | [] => none
  | letter :: rest =>
    match splitLast separator rest with
    | some parts => some (letter :: parts.1, parts.2)
    | none => if letter = separator then some ([], rest) else none

/-! ### Pieces -/

@[simp]
theorem pieces_nil (separator : Char) : pieces separator [] = [[]] := rfl

/-- A text has at least one piece. -/
theorem pieces_ne_nil (separator : Char) (text : List Char) : pieces separator text ≠ [] := by
  cases text with
  | nil => simp
  | cons letter rest =>
    unfold pieces
    split
    · simp
    · split <;> simp

/-- The pieces are those of the core library. -/
theorem pieces_eq_splitOn (separator : Char) (text : List Char) :
    pieces separator text = text.splitOn separator := by
  induction text with
  | nil => rfl
  | cons letter rest ih =>
    rw [List.splitOn_cons_eq_if_modifyHead, ← ih, pieces]
    by_cases same : letter = separator
    · rw [if_pos same, if_pos (beq_iff_eq.2 same)]
    · rw [if_neg same, if_neg (mt beq_iff_eq.1 same)]
      split
      · next empty => exact absurd empty (pieces_ne_nil separator rest)
      · next first others shape => rw [shape, List.modifyHead_cons]

theorem intercalate_pieces (separator : Char) (text : List Char) :
    [separator].intercalate (pieces separator text) = text := by
  rw [pieces_eq_splitOn, List.intercalate_splitOn]

/-- Parts without the separator are the pieces of their joined text. -/
theorem pieces_intercalate {separator : Char} {parts : List (List Char)} (nonempty : parts ≠ [])
    (free : ∀ part ∈ parts, separator ∉ part) :
    pieces separator ([separator].intercalate parts) = parts := by
  rw [pieces_eq_splitOn, List.splitOn_intercalate separator free nonempty]

theorem pieces_append_cons (separator : Char) (first rest : List Char) :
    pieces separator (first ++ separator :: rest) =
      pieces separator first ++ pieces separator rest := by
  simp only [pieces_eq_splitOn, List.splitOn_append_cons_self]

theorem not_mem_of_mem_pieces {separator : Char} {text piece : List Char}
    (member : piece ∈ pieces separator text) : separator ∉ piece := by
  induction text generalizing piece with
  | nil =>
    obtain rfl := List.mem_singleton.1 member
    exact List.not_mem_nil
  | cons letter rest ih =>
    unfold pieces at member
    split at member
    · rcases List.mem_cons.1 member with rfl | later
      · exact List.not_mem_nil
      · exact ih later
    · next different =>
      split at member
      · next empty => exact absurd empty (pieces_ne_nil separator rest)
      · next first others shape =>
        rw [shape] at ih
        rcases List.mem_cons.1 member with rfl | later
        · exact List.not_mem_cons_of_ne_of_not_mem (Ne.symm different) (ih List.mem_cons_self)
        · exact ih (List.mem_cons_of_mem first later)

/-! ### Joining -/

theorem intercalate_cons (separator : Char) (part : List Char) (parts : List (List Char)) :
    [separator].intercalate (part :: parts) = part ++ parts.flatMap (separator :: ·) := by
  induction parts generalizing part with
  | nil => simp
  | cons next others ih =>
    rw [List.intercalate_cons_cons, ih, List.flatMap_cons, List.append_assoc,
      List.singleton_append, List.cons_append]

/-- A separator behind every part, instead of between them. -/
theorem flatMap_append_separator (separator : Char) (part : List Char)
    (parts : List (List Char)) :
    (part :: parts).flatMap (· ++ [separator]) =
      [separator].intercalate (part :: parts) ++ [separator] := by
  induction parts generalizing part with
  | nil => simp
  | cons next others ih =>
    rw [List.flatMap_cons, ih, List.intercalate_cons_cons, List.append_assoc _ _ [separator]]

/-- Parts with a separator behind each of them are the pieces in front of the last one, which is
empty. -/
theorem pieces_flatMap_append {separator : Char} {parts : List (List Char)}
    (free : ∀ part ∈ parts, separator ∉ part) :
    pieces separator (parts.flatMap (· ++ [separator])) = parts ++ [[]] := by
  cases parts with
  | nil => rfl
  | cons part others =>
    rw [flatMap_append_separator, pieces_append_cons,
      pieces_intercalate (List.cons_ne_nil part others) free, pieces_nil]

theorem eq_or_exists_mem_of_mem_intercalate {separator letter : Char} {parts : List (List Char)}
    (member : letter ∈ [separator].intercalate parts) :
    letter = separator ∨ ∃ part ∈ parts, letter ∈ part := by
  cases parts with
  | nil => cases member
  | cons part others =>
    rw [intercalate_cons, List.mem_append, List.mem_flatMap] at member
    rcases member with inPart | ⟨other, known, inOther⟩
    · exact Or.inr ⟨part, List.mem_cons_self, inPart⟩
    · rcases List.mem_cons.1 inOther with same | inOther
      · exact Or.inl same
      · exact Or.inr ⟨other, List.mem_cons_of_mem part known, inOther⟩

/-! ### The first cut -/

/-- The first cut leaves what stands before the first separator and what stands behind it. -/
theorem splitFirst_of_mem {separator : Char} {text : List Char} (member : separator ∈ text) :
    splitFirst separator text =
      some (text.takeWhile (· ≠ separator), (text.dropWhile (· ≠ separator)).tail) := by
  induction text with
  | nil => simp at member
  | cons letter rest ih =>
    by_cases same : letter = separator
    · simp [splitFirst, same]
    · have inRest : separator ∈ rest := by
        simpa [Ne.symm same] using member
      simp [splitFirst, same, ih inRest]

theorem splitFirst_append_cons {separator : Char} {before : List Char}
    (absent : separator ∉ before) (behind : List Char) :
    splitFirst separator (before ++ separator :: behind) = some (before, behind) := by
  induction before with
  | nil => simp [splitFirst]
  | cons letter rest ih =>
    have different := List.ne_of_not_mem_cons absent
    rw [List.cons_append, splitFirst, if_neg (Ne.symm different),
      ih (List.not_mem_of_not_mem_cons absent), Option.map_some]

/-! ### The last cut -/

theorem splitLast_eq_none_iff {separator : Char} {text : List Char} :
    splitLast separator text = none ↔ separator ∉ text := by
  induction text with
  | nil => simp [splitLast]
  | cons letter rest ih =>
    unfold splitLast
    split
    · next parts found =>
      rw [found] at ih
      simp_all
    · next absent =>
      have notInRest := ih.1 absent
      by_cases same : letter = separator
      · simp [same]
      · simp [same, notInRest, Ne.symm same]

theorem splitLast_append_cons {separator : Char} {behind : List Char}
    (absent : separator ∉ behind) (before : List Char) :
    splitLast separator (before ++ separator :: behind) = some (before, behind) := by
  induction before with
  | nil => simp [splitLast, splitLast_eq_none_iff.2 absent]
  | cons letter rest ih => rw [List.cons_append, splitLast, ih]

/-- The last cut is the one without a separator behind it. -/
theorem splitLast_eq_some_iff {separator : Char} {text before behind : List Char} :
    splitLast separator text = some (before, behind) ↔
      text = before ++ separator :: behind ∧ separator ∉ behind := by
  constructor
  · intro found
    induction text generalizing before with
    | nil => simp [splitLast] at found
    | cons letter rest ih =>
      unfold splitLast at found
      split at found
      · next parts inRest =>
        obtain ⟨rfl, rfl⟩ := Prod.mk.inj (Option.some.inj found)
        obtain ⟨shape, absent⟩ := ih inRest
        exact ⟨by rw [shape, List.cons_append], absent⟩
      · next notInRest =>
        split at found
        · next same =>
          obtain ⟨rfl, rfl⟩ := Prod.mk.inj (Option.some.inj found)
          exact ⟨by rw [same, List.nil_append], splitLast_eq_none_iff.1 notInRest⟩
        · cases found
  · rintro ⟨rfl, absent⟩
    exact splitLast_append_cons absent before

end FormRules.Text
