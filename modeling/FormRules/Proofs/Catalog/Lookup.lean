/-
**What a catalog holds.**

A catalog is known by what is found in it. Templates that are set one after the other leave the
last one of each name, and a file leaves its own templates over those that were there, whatever
order they are gone through in.

* `Catalog.get?_extend`, `Catalog.get?_applyFile`, `Catalog.get?_builtin`: what is found;
* `Catalog.extend_of_perm`: the order of the templates of a file does not matter;
* `Catalog.Change.run_load`, `Catalog.Change.load_unread`: a file that can be read is layered over a
  catalog, and one that cannot be read leaves the catalog as it was;
* `Catalog.changed_loadAll_eq_ok_iff`: the loop over several files.
-/

import FormRules.Catalog
import FormRules.Proofs.Text.Bytes
import FormRules.Table

namespace FormRules

/-! ### Entries with different keys -/

section Lookup

variable {α : Type} {first second : List (String × α)}

/-- Entries with different keys make a table, so what holds of tables holds of them. -/
theorem lookup_eq_some_iff_mem (distinct : (first.map Prod.fst).Nodup) {key : String} {value : α} :
    first.lookup key = some value ↔ (key, value) ∈ first :=
  @Table.get?_eq_some_iff α ⟨first, distinct⟩ key value

/-- The order of entries with different keys does not matter for what is found among them. -/
theorem lookup_eq_of_perm (distinct : (first.map Prod.fst).Nodup) (perm : first.Perm second)
    (key : String) : first.lookup key = second.lookup key :=
  @Table.get?_eq_of_perm α ⟨first, distinct⟩
    ⟨second, (perm.map Prod.fst).nodup_iff.1 distinct⟩ perm key

/-- The first entry of a key is also the last one if the keys differ. -/
theorem lookup_reverse (distinct : (first.map Prod.fst).Nodup) (key : String) :
    first.reverse.lookup key = first.lookup key :=
  (lookup_eq_of_perm distinct first.reverse_perm.symm key).symm

theorem lookup_reverse_eq_none {name : String} (absent : name ∉ first.map Prod.fst) :
    first.reverse.lookup name = none := by
  rw [List.lookup_eq_none_iff]
  intro entry member
  refine bne_iff_ne.2 ?_
  rintro rfl
  exact absent (List.mem_map_of_mem (List.mem_reverse.1 member))

end Lookup

namespace Dictionary

variable {α : Type} (dictionary : Dictionary α)

theorem nodup_keys_toList : (dictionary.toList.map Prod.fst).Nodup := by
  rw [Std.ExtTreeMap.map_fst_toList_eq_keys]
  exact Std.ExtTreeMap.nodup_keys

theorem lookup_toList (key : String) : dictionary.toList.lookup key = dictionary.get? key := by
  refine Option.ext fun value => ?_
  rw [lookup_eq_some_iff_mem dictionary.nodup_keys_toList]
  exact Std.ExtTreeMap.mem_toList_iff_getElem?_eq_some

end Dictionary

namespace Catalog

variable {catalog : Catalog}

/-- Catalogs in which the same is found are the same. -/
theorem ext_get? {first second : Catalog} (same : ∀ name, first.get? name = second.get? name) :
    first = second := by
  obtain ⟨templates⟩ := first
  obtain ⟨others⟩ := second
  exact congrArg mk (Std.ExtTreeMap.ext_getElem? same)

/-! ### What is found -/

/-- **The last template of a name is found**, and under names without one what was there before. -/
theorem get?_extend (overrides : List (String × String)) (name : String) :
    (catalog.extend overrides).get? name =
      (overrides.reverse.lookup name).or (catalog.get? name) := by
  induction overrides generalizing catalog with
  | nil => rfl
  | cons entry rest ih =>
    show ((catalog.set entry.1 entry.2).extend rest).get? name = _
    rw [ih, get?_set, List.reverse_cons, List.lookup_append, Option.or_assoc, List.lookup_cons]
    by_cases same : name = entry.1
    · simp [same]
    · simp [same, beq_eq_false_iff_ne.2 same]

theorem extend_append (first second : List (String × String)) :
    catalog.extend (first ++ second) = (catalog.extend first).extend second :=
  List.foldl_append

/-- Templates for different names may be set in any order. -/
theorem extend_of_perm {first second : List (String × String)} (perm : first.Perm second)
    (distinct : (first.map Prod.fst).Nodup) : catalog.extend first = catalog.extend second := by
  refine ext_get? fun name => ?_
  have sameKeys := (perm.map Prod.fst).nodup_iff.1 distinct
  rw [get?_extend, get?_extend, lookup_reverse distinct, lookup_reverse sameKeys,
    lookup_eq_of_perm distinct perm]

/-- The templates of a file are found before those that were there, empty or not. -/
theorem get?_applyFile (file : CatalogFile) (name : String) :
    (catalog.applyFile file).get? name = (file.messages.get? name).or (catalog.get? name) := by
  rw [applyFile, get?_extend, lookup_reverse file.messages.nodup_keys_toList,
    Dictionary.lookup_toList]

/-- The built-in catalog has the default templates of the built-in rules and no other ones. -/
theorem get?_builtin (name : String) :
    builtin.get? name = (Rule.ofName? name).map Rule.defaultTemplate := by
  have shape : builtin = (⟨∅⟩ : Catalog).extend
      (Rule.all.map fun rule => (rule.name, rule.defaultTemplate)) := rfl
  have distinct : ((Rule.all.map fun rule => (rule.name, rule.defaultTemplate)).map
      Prod.fst).Nodup := by decide
  have nothing : (⟨∅⟩ : Catalog).get? name = none := Std.ExtTreeMap.getElem?_empty
  rw [shape, get?_extend, lookup_reverse distinct, nothing, Option.or_none]
  refine Option.ext fun template => ?_
  rw [lookup_eq_some_iff_mem distinct, List.mem_map, Option.map_eq_some_iff]
  constructor
  · rintro ⟨rule, _, same⟩
    obtain ⟨rfl, rfl⟩ := Prod.mk.inj same
    exact ⟨rule, Rule.ofName?_name rule, rfl⟩
  · rintro ⟨rule, found, rfl⟩
    exact ⟨rule, Rule.mem_all rule, by rw [Rule.name_of_ofName? found]⟩

/-! ### Files -/

/-- The catalog file that bytes are, if they are a text and the text is one. -/
def fileOf? (bytes : Option ByteArray) : Option CatalogFile :=
  (bytes.bind String.fromUTF8?).bind CatalogFile.read?

theorem fileOf?_of_read {text : String} {file : CatalogFile}
    (read : CatalogFile.read? text = some file) : fileOf? (some text.toUTF8) = some file := by
  rw [fileOf?, Option.bind_some, Text.fromUTF8?_toUTF8, Option.bind_some, read]

namespace Change

variable {path text : String} {bytes : Option ByteArray} {file : CatalogFile}

theorem run_applyToml (read : CatalogFile.read? text = some file) (catalog : Catalog) :
    (applyToml path text).run catalog = .ok () (catalog.applyFile file) := by
  unfold applyToml
  rw [read]
  rfl

/-- A text that cannot be read leaves the catalog as it was. -/
theorem applyToml_unread (unread : CatalogFile.read? text = none) (catalog : Catalog) :
    (applyToml path text).run catalog = .error (.catalogMalformed path) catalog := by
  unfold applyToml
  rw [unread]
  rfl

/-- **A file that can be read is layered over the catalog.** -/
theorem run_load (read : fileOf? bytes = some file) (catalog : Catalog) :
    (load path bytes).run catalog = .ok () (catalog.applyFile file) := by
  obtain ⟨text, isText, readText⟩ := Option.bind_eq_some_iff.1 read
  unfold load
  rw [isText]
  exact run_applyToml readText catalog

/-- **A file that cannot be read leaves the catalog as it was**, be it no text at all or a text that
is no catalog file. -/
theorem load_unread (unread : fileOf? bytes = none) (catalog : Catalog) :
    ∃ error : Error, (load path bytes).run catalog = .error error catalog := by
  rw [fileOf?] at unread
  unfold load
  cases isText : bytes.bind String.fromUTF8? with
  | none => exact ⟨.catalogUnreadable path, rfl⟩
  | some text =>
    rw [isText] at unread
    exact ⟨.catalogMalformed path, applyToml_unread unread catalog⟩

end Change

/-- **Files are layered one over the other exactly if all of them can be read.** The first one that
cannot be read ends the loop with its error. -/
theorem changed_loadAll_eq_ok_iff {files : List (String × Option ByteArray)} {result : Catalog} :
    catalog.changed (.loadAll files) = .ok result ↔
      ∃ contents, files.mapM (fun file => fileOf? file.2) = some contents ∧
        result = contents.foldl applyFile catalog := by
  induction files generalizing catalog with
  | nil =>
    show Except.ok catalog = .ok result ↔ ∃ contents, some [] = some contents ∧ _
    simp [eq_comm]
  | cons file rest ih =>
    rw [List.mapM_cons, Change.loadAll, List.forM_cons, changed, EStateM.run_bind]
    cases read : fileOf? file.2 with
    | none =>
      obtain ⟨error, failed⟩ := Change.load_unread read catalog
      rw [failed]
      simp
    | some content =>
      rw [Change.run_load read]
      show (catalog.applyFile content).changed (.loadAll rest) = .ok result ↔ _
      rw [ih]
      constructor
      · rintro ⟨contents, readRest, layered⟩
        exact ⟨content :: contents, by rw [readRest]; rfl, layered⟩
      · rintro ⟨_, readAll, layered⟩
        have readLater : (rest.mapM fun file => fileOf? file.2).bind
            (fun contents => some (content :: contents)) = some _ := readAll
        obtain ⟨contents, readRest, same⟩ := Option.bind_eq_some_iff.1 readLater
        rw [← Option.some.inj same] at layered
        exact ⟨contents, readRest, layered⟩

end Catalog

end FormRules
