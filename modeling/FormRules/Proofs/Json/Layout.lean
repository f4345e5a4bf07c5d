/-
**Layouts of JSON.**

Both ways of writing a document put the same tokens in the same order and differ in the blanks
between them. So they are one function of a layout, and what is shown of that function holds of
both.

* `Layout.text` writes a document in a layout;
* `Layout.compactText_eq` and `Layout.prettyText_eq`: the two ways of writing are the layouts
  `Layout.dense` and `Layout.indented`.
-/

import FormRules.Json.Reader
import FormRules.Json.Writer

namespace FormRules.Json

/-! ### Layouts -/

/-- The blanks of a layout. -/
structure Layout where
  /-- What stands before an element or entry on a level, and before the closing bracket. -/
  lead : Nat → List Char
  /-- What stands between the colon and the value of an entry. -/
  afterColon : List Char
  isGap_lead : ∀ level, ∀ letter ∈ lead level, isGap letter = true
  isGap_afterColon : ∀ letter ∈ afterColon, isGap letter = true

namespace Layout

def dense : Layout where
  lead _ := []
  afterColon := []
  isGap_lead := by simp
  isGap_afterColon := by simp

/-- Elements and entries on lines of their own, indented by their level. -/
def indented : Layout where
  lead := newLine
  afterColon := [' ']
  isGap_lead level letter member := by
    obtain rfl | blank := List.mem_cons.1 member
    · rfl
    · rw [List.eq_of_mem_replicate blank]
      rfl
  isGap_afterColon := by simp [isGap]

mutual

/-- A document in a layout; its first line continues a line of the given level. -/
def text (layout : Layout) (level : Nat) : Json → List Char
  | .null => "null".toList
  | .bool true => "true".toList
  | .bool false => "false".toList
  | .number literal => numberText literal
  | .string content => stringText content
  | .array [] => "[]".toList
  | .array elements => '[' :: layout.elementsText (level + 1) elements ++ layout.lead level ++ [']']
  | .object [] => "\x7b\x7d".toList
  | .object entries =>
    '\x7b' :: layout.entriesText (level + 1) entries ++ layout.lead level ++ ['\x7d']

def elementsText (layout : Layout) (level : Nat) : List Json → List Char
  | [] => []
  | [element] => layout.lead level ++ layout.text level element
  | element :: rest =>
    layout.lead level ++ layout.text level element ++ ',' :: layout.elementsText level rest

def entriesText (layout : Layout) (level : Nat) : List (Option String × Json) → List Char
  | [] => []
  | [(key, value)] =>
    layout.lead level ++ stringText key ++ ':' :: layout.afterColon ++ layout.text level value
  | (key, value) :: rest =>
    layout.lead level ++ stringText key ++ ':' :: layout.afterColon ++ layout.text level value ++
      ',' :: layout.entriesText level rest

end

section Equations

variable (layout : Layout) (level : Nat)

theorem text_array {elements : List Json} (something : elements ≠ []) :
    layout.text level (.array elements) =
      '[' :: layout.elementsText (level + 1) elements ++ layout.lead level ++ [']'] := by
  rw [text]
  exact something

theorem text_object {entries : List (Option String × Json)} (something : entries ≠ []) :
    layout.text level (.object entries) =
      '\x7b' :: layout.entriesText (level + 1) entries ++ layout.lead level ++ ['\x7d'] := by
  rw [text]
  exact something

theorem elementsText_cons (element : Json) {rest : List Json} (more : rest ≠ []) :
    layout.elementsText level (element :: rest) =
      layout.lead level ++ layout.text level element ++ ',' :: layout.elementsText level rest := by
  rw [elementsText]
  exact more

theorem entriesText_cons (key : Option String) (value : Json)
    {rest : List (Option String × Json)} (more : rest ≠ []) :
    layout.entriesText level ((key, value) :: rest) =
      layout.lead level ++ stringText key ++ ':' :: layout.afterColon ++ layout.text level value ++
        ',' :: layout.entriesText level rest := by
  rw [entriesText]
  exact more

end Equations

mutual

/-- Without blanks the level makes no difference, so the writer of one line needs none. -/
theorem compactText_eq (level : Nat) : ∀ document : Json,
    document.compactText = dense.text level document
  | .null => by rw [compactText, text]
  | .bool true => by rw [compactText, text]
  | .bool false => by rw [compactText, text]
  | .number _ => by rw [compactText, text]
  | .string _ => by rw [compactText, text]
  | .array [] => by simp [compactText, compactElements, text]
  | .array (element :: rest) => by
    rw [compactText, text, compactElements_eq (level + 1)]
    · simp [dense]
    · simp
  | .object [] => by simp [compactText, compactEntries, text]
  | .object (entry :: rest) => by
    rw [compactText, text, compactEntries_eq (level + 1)]
    · simp [dense]
    · simp

theorem compactElements_eq (level : Nat) : ∀ elements : List Json,
    compactElements elements = dense.elementsText level elements
  | [] => by rw [compactElements, elementsText]
  | [element] => by
    rw [compactElements, elementsText, compactText_eq level]
    rfl
  | element :: second :: rest => by
    rw [compactElements, elementsText, compactText_eq level, compactElements_eq level]
    · rfl
    · simp
    · simp

theorem compactEntries_eq (level : Nat) : ∀ entries : List (Option String × Json),
    compactEntries entries = dense.entriesText level entries
  | [] => by rw [compactEntries, entriesText]
  | [(key, value)] => by
    rw [compactEntries, entriesText, compactText_eq level]
    simp [dense]
  | (key, value) :: second :: rest => by
    rw [compactEntries, entriesText, compactText_eq level, compactEntries_eq level]
    · simp [dense]
    · simp
    · simp

end

mutual

theorem prettyText_eq (level : Nat) : ∀ document : Json,
    document.prettyText level = indented.text level document
  | .null => by rw [prettyText, text]
  | .bool true => by rw [prettyText, text]
  | .bool false => by rw [prettyText, text]
  | .number _ => by rw [prettyText, text]
  | .string _ => by rw [prettyText, text]
  | .array [] => by rw [prettyText, text]
  | .array (element :: rest) => by
    rw [prettyText, text, prettyElements_eq (level + 1)]
    · rfl
    · simp
    · simp
  | .object [] => by rw [prettyText, text]
  | .object (entry :: rest) => by
    rw [prettyText, text, prettyEntries_eq (level + 1)]
    · rfl
    · simp
    · simp

theorem prettyElements_eq (level : Nat) : ∀ elements : List Json,
    prettyElements level elements = indented.elementsText level elements
  | [] => by rw [prettyElements, elementsText]
  | [element] => by
    rw [prettyElements, elementsText, prettyText_eq level]
    rfl
  | element :: second :: rest => by
    rw [prettyElements, elementsText, prettyText_eq level, prettyElements_eq level]
    · rfl
    · simp
    · simp

theorem prettyEntries_eq (level : Nat) : ∀ entries : List (Option String × Json),
    prettyEntries level entries = indented.entriesText level entries
  | [] => by rw [prettyEntries, entriesText]
  | [(key, value)] => by
    rw [prettyEntries, entriesText, prettyText_eq level]
    simp [indented]
  | (key, value) :: second :: rest => by
    rw [prettyEntries, entriesText, prettyText_eq level, prettyEntries_eq level]
    · simp [indented]
    · simp
    · simp

end

end Layout

end FormRules.Json
