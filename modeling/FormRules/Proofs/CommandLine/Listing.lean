/-
**The listing of a catalog.**

A catalog is listed with a rule name, a tabulator and a template on each line. The listing loses
nothing: setting the listed templates over the built-in catalog gives the catalog back, and if names
and templates fit lines, the entries can be read off the lines.

* `Catalog.Complete.extend_entries`: a catalog is made of its entries;
* `Catalog.FitsLines` says when names and templates fit lines, and `Catalog.fitsLines_after`: it is
  enough that everything that was ever set does;
* `readListing?` reads the lines of a listing, and `readListing?_listing`: it finds the entries of a
  catalog that fits lines;
* `exists_after_of_loadCatalog`: the catalog of a run has a history;
* `listing_determines_catalog` is the result.
-/

import FormRules.Proofs.Catalog.History
import FormRules.Proofs.CommandLine.Steps
import FormRules.Text.Split

namespace FormRules

namespace Catalog

variable {catalog : Catalog}

/-- **A catalog is made of its entries**: they replace all built-in templates and add the others. -/
theorem Complete.extend_entries (complete : catalog.Complete) :
    builtin.extend catalog.entries = catalog := by
  have distinct := complete.nodup_entries
  have listed (name : String) : catalog.entries.lookup name = catalog.get? name :=
    Option.ext fun template => (lookup_eq_some_iff_mem distinct).trans mem_entries_iff
  refine ext_get? fun name => ?_
  rw [get?_extend, lookup_reverse distinct, listed, get?_builtin]
  cases builtinRule : Rule.ofName? name with
  | none => exact Option.or_none
  | some rule =>
    obtain ⟨template, found⟩ := complete rule
    rw [Rule.name_of_ofName? builtinRule] at found
    rw [found, Option.some_or]

/-- **An entry that fits a line**: there is no line feed in it, and no tabulator in its name. -/
structure FitsLine (entry : String × String) : Prop where
  noTab : '\t' ∉ entry.1.toList
  oneLine : '\n' ∉ entry.1.toList
  templateOneLine : '\n' ∉ entry.2.toList

instance (entry : String × String) : Decidable (FitsLine entry) :=
  decidable_of_iff ('\t' ∉ entry.1.toList ∧ '\n' ∉ entry.1.toList ∧ '\n' ∉ entry.2.toList)
    ⟨fun parts => ⟨parts.1, parts.2.1, parts.2.2⟩, fun fits => ⟨fits.1, fits.2, fits.3⟩⟩

/-- A catalog of names and templates that fit lines. -/
def FitsLines (catalog : Catalog) : Prop :=
  ∀ name template, catalog.get? name = some template → FitsLine (name, template)

theorem fitsLines_builtin : builtin.FitsLines := by
  intro name template found
  rw [get?_builtin, Option.map_eq_some_iff] at found
  obtain ⟨rule, named, rfl⟩ := found
  rw [← Rule.name_of_ofName? named]
  cases rule <;> decide +kernel

/-- A catalog fits lines as long as everything that is set does. -/
theorem FitsLines.extend (fits : catalog.FitsLines) {overrides : List (String × String)}
    (overridesFit : ∀ entry ∈ overrides, FitsLine entry) :
    (catalog.extend overrides).FitsLines := by
  intro name template found
  rw [get?_extend, Option.or_eq_some_iff] at found
  obtain written | ⟨_, before⟩ := found
  · obtain ⟨front, behind, shape, _⟩ := List.lookup_eq_some_iff.1 written
    refine overridesFit _ (List.mem_reverse.1 ?_)
    rw [shape]
    exact List.mem_append_right front List.mem_cons_self
  · exact fits name template before

/-- **A catalog fits lines if everything in its history does.** -/
theorem fitsLines_after {operations : List Operation} {writes : List (List (String × String))}
    (written : List.Forall₂ Operation.Writes operations writes)
    (writesFit : ∀ entry ∈ writes.flatten, FitsLine entry) :
    (builtin.after operations).FitsLines := by
  rw [after_eq_extend written]
  exact fitsLines_builtin.extend writesFit

end Catalog

namespace CommandLine

/-! ### Reading a listing -/

/-- The entry on a line, which is cut at its first tabulator. -/
def entryOfLine? (line : List Char) : Option (String × String) :=
  (Text.splitFirst '\t' line).map fun parts => (.ofList parts.1, .ofList parts.2)

/-- The entries of a listing, in which every line ends with a line feed. -/
def readListing? (text : String) : Option (List (String × String)) :=
  let pieces := Text.pieces '\n' text.toList
  if pieces.getLast? = some [] then pieces.dropLast.mapM entryOfLine? else none

/-- The line of an entry. -/
def lineOf (entry : String × String) : List Char :=
  entry.1.toList ++ '\t' :: entry.2.toList

theorem toList_listing (catalog : Catalog) :
    (listing catalog).toList = (catalog.entries.map lineOf).flatMap (· ++ ['\n']) := by
  rw [listing, String.toList_join, List.flatMap_map, List.flatMap_map]
  refine List.flatMap_congr fun entry _ => ?_
  simp [lineOf]

theorem mapM_entryOfLine? {entries : List (String × String)}
    (noTab : ∀ entry ∈ entries, '\t' ∉ entry.1.toList) :
    (entries.map lineOf).mapM entryOfLine? = some entries := by
  induction entries with
  | nil => rfl
  | cons entry rest ih =>
    have first : entryOfLine? (lineOf entry) = some entry := by
      rw [entryOfLine?, lineOf, Text.splitFirst_append_cons (noTab entry List.mem_cons_self),
        Option.map_some, String.ofList_toList, String.ofList_toList]
    rw [List.map_cons, List.mapM_cons, first, ih fun other member =>
      noTab other (List.mem_cons_of_mem entry member)]
    rfl

/-- **A listing reads back as the entries of the catalog.** -/
theorem readListing?_listing {catalog : Catalog} (fits : catalog.FitsLines) :
    readListing? (listing catalog) = some catalog.entries := by
  have entries : ∀ entry ∈ catalog.entries, Catalog.FitsLine entry := fun entry listed =>
    fits entry.1 entry.2 (Catalog.mem_entries_iff.1 listed)
  have noLineFeed : ∀ line ∈ catalog.entries.map lineOf, '\n' ∉ line := by
    intro line member
    obtain ⟨entry, listed, rfl⟩ := List.mem_map.1 member
    rw [lineOf, List.mem_append, List.mem_cons]
    rintro (inName | isTab | inTemplate)
    · exact (entries entry listed).oneLine inName
    · exact absurd isTab (by decide)
    · exact (entries entry listed).templateOneLine inTemplate
  rw [readListing?, toList_listing, Text.pieces_flatMap_append noLineFeed,
    List.getLast?_concat, if_pos rfl,
    List.dropLast_concat, mapM_entryOfLine? fun entry listed => (entries entry listed).noTab]

/-! ### The catalog of a run -/

/-- **The catalog of a run has a history**: its files are applied one after the other. -/
theorem exists_after_of_loadCatalog {config : Config} {file : String → Option ByteArray}
    {catalog : Catalog} (loaded : config.loadCatalog file = .ok catalog) :
    ∃ operations, catalog = Catalog.builtin.after operations := by
  obtain ⟨files, _, layered⟩ := Config.loadCatalog_eq_ok_iff.1 loaded
  refine ⟨files.map .applyFile, ?_⟩
  rw [layered, Catalog.after, List.foldl_map]
  rfl

/-- **A listing determines its catalog.** Whatever was done to a catalog, setting its entries over
the built-in catalog gives it back. If its names and templates fit lines, its entries are read off
its listing in their order, so no two such catalogs have the same listing. What a run lists is a
catalog with a history. -/
theorem listing_determines_catalog :
    (∀ operations, let catalog := Catalog.builtin.after operations
      Catalog.builtin.extend catalog.entries = catalog ∧
      (catalog.FitsLines → readListing? (listing catalog) = some catalog.entries)) ∧
    (∀ first second, (Catalog.builtin.after first).FitsLines →
      (Catalog.builtin.after second).FitsLines →
      listing (Catalog.builtin.after first) = listing (Catalog.builtin.after second) →
      Catalog.builtin.after first = Catalog.builtin.after second) ∧
    ∀ (config : Config) (surroundings : Surroundings) (catalog : Catalog),
      config.listRules = true → config.loadCatalog surroundings.file = .ok catalog →
      (∃ operations, catalog = Catalog.builtin.after operations) ∧
      (execute config surroundings).output = listing catalog := by
  have rebuilt (operations : List Catalog.Operation) :=
    (Catalog.complete_builtin.after operations).extend_entries
  refine ⟨fun operations => ⟨rebuilt operations, readListing?_listing⟩, ?_, ?_⟩
  · intro first second fitsFirst fitsSecond same
    have sameEntries : (Catalog.builtin.after first).entries =
        (Catalog.builtin.after second).entries := by
      have read := readListing?_listing fitsFirst
      rw [same, readListing?_listing fitsSecond] at read
      exact (Option.some.inj read).symm
    rw [← rebuilt first, sameEntries, rebuilt second]
  · intro config surroundings catalog lists loaded
    refine ⟨exists_after_of_loadCatalog loaded, ?_⟩
    rw [execute_eq, loaded]
    simp only [lists, if_true]

/-- A name that differs from a built-in one in a capital, an empty template, and one with
tabulators; two histories with the same listing, and a run that lists the built-in catalog. -/
theorem listing_determines_catalog_tabulators :
    let catalog := Catalog.builtin.after
      [.set "Required" "", .extend [("odd", "No!")], .set "odd" "\tOdd!\t"]
    let other := Catalog.builtin.after [.extend [("odd", "\tOdd!\t"), ("Required", "")]]
    let config : Config := ⟨none, [], false, true, false, "warn"⟩
    let surroundings : Surroundings := ⟨fun _ => none, .empty⟩
    catalog.FitsLines ∧ readListing? (listing catalog) = some catalog.entries ∧
    other.FitsLines ∧ listing catalog = listing other ∧ catalog = other ∧
    config.listRules = true ∧ config.loadCatalog surroundings.file = .ok .builtin ∧
      (execute config surroundings).output = listing .builtin := by
  intro catalog other config surroundings
  obtain ⟨reads, determines, ofRun⟩ := listing_determines_catalog
  have fits : catalog.FitsLines := Catalog.fitsLines_after
    (.cons (.set _ _) (.cons (.extend _) (.cons (.set _ _) .nil))) (by decide +kernel)
  have fitsOther : other.FitsLines := Catalog.fitsLines_after (.cons (.extend _) .nil)
    (by decide +kernel)
  have same : listing catalog = listing other := by decide +kernel
  exact ⟨fits, (reads _).2 fits, fitsOther, same, determines _ _ fits fitsOther same, rfl, rfl,
    (ofRun config surroundings .builtin rfl rfl).2⟩

end CommandLine

end FormRules
