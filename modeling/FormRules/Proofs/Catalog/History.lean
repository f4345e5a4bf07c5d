/-
**The history of a catalog.**

Whatever was done to a catalog, it lists all built-in rules first and every other name behind them
in the order of its bytes, and it holds the last template that was written under each name. An
operation that fails has written nothing.

* `Catalog.WellListed` says what the list of a catalog is like, and `Catalog.wellListed`: a catalog
  that knows every built-in rule has such a list;
* `Catalog.Operation.Writes` says what an operation writes, `Catalog.Operation.Writes.perform_eq`
  is one step and `Catalog.after_eq_extend` a whole history;
* `Catalog.history_of_builtin` is the result.
-/

import FormRules.Proofs.Catalog.Lookup
import FormRules.Proofs.Text.Bytes
import Mathlib.Data.List.Forall2
import Mathlib.Data.List.Nodup

namespace FormRules

namespace Catalog

variable {catalog : Catalog}

/-! ### The list of a catalog -/

/-- The entries of the built-in rules, in their order. -/
def builtinEntries (catalog : Catalog) : List (String × String) :=
  Rule.all.filterMap fun rule => (catalog.get? rule.name).map fun template => (rule.name, template)

/-- The entries of all other names. -/
def otherEntries (catalog : Catalog) : List (String × String) :=
  catalog.templates.toList.filter fun entry => (Rule.ofName? entry.1).isNone

theorem entries_eq : catalog.entries = catalog.builtinEntries ++ catalog.otherEntries := rfl

theorem mem_builtinEntries_iff {name template : String} :
    (name, template) ∈ catalog.builtinEntries ↔
      catalog.get? name = some template ∧ Rule.ofName? name ≠ none := by
  rw [builtinEntries, List.mem_filterMap, Rule.ofName?_ne_none_iff]
  constructor
  · rintro ⟨rule, _, listed⟩
    obtain ⟨held, found, same⟩ := Option.map_eq_some_iff.1 listed
    obtain ⟨rfl, rfl⟩ := Prod.mk.inj same
    exact ⟨found, rule, rfl⟩
  · rintro ⟨found, rule, rfl⟩
    exact ⟨rule, Rule.mem_all rule, by rw [found]; rfl⟩

theorem mem_otherEntries_iff {name template : String} :
    (name, template) ∈ catalog.otherEntries ↔
      catalog.get? name = some template ∧ Rule.ofName? name = none := by
  rw [otherEntries, List.mem_filter, Option.isNone_iff_eq_none]
  exact and_congr_left' Std.ExtTreeMap.mem_toList_iff_getElem?_eq_some

/-- **Exactly the templates of the catalog are listed.** Every name is either that of a built-in
rule or not, so it is found by one of the two scans and not by the other one. -/
theorem mem_entries_iff {name template : String} :
    (name, template) ∈ catalog.entries ↔ catalog.get? name = some template := by
  rw [entries_eq, List.mem_append, mem_builtinEntries_iff, mem_otherEntries_iff, ← and_or_left]
  exact and_iff_left (ne_or_eq _ _)

/-- The dictionary is in the order of the letters, and that is the order of the bytes. -/
theorem pairwise_otherEntries : catalog.otherEntries.Pairwise fun first second =>
    Text.bytes first.1 < Text.bytes second.1 := by
  have ordered := (Std.ExtTreeMap.ordered_keys_toList (t := catalog.templates)).sublist
    (List.filter_sublist (p := fun entry => (Rule.ofName? entry.1).isNone))
  refine ordered.imp fun {first second} below => Text.bytes_lt_iff.2 ?_
  have below : compareOfLessAndEq first.1 second.1 = .lt := below
  exact (compareOfLessAndEq_eq_lt).1 below

/-- A catalog that knows every built-in rule. -/
def Complete (catalog : Catalog) : Prop :=
  ∀ rule : Rule, ∃ template, catalog.get? rule.name = some template

theorem Complete.map_fst_builtinEntries (complete : catalog.Complete) :
    catalog.builtinEntries.map Prod.fst = Rule.all.map Rule.name := by
  rw [builtinEntries, List.map_filterMap, ← List.filterMap_eq_map]
  refine List.filterMap_congr fun rule _ => ?_
  obtain ⟨template, found⟩ := complete rule
  rw [found]
  rfl

/-- Neither scan lists a name twice, and no name is listed by both. -/
theorem Complete.nodup_entries (complete : catalog.Complete) :
    (catalog.entries.map Prod.fst).Nodup := by
  rw [entries_eq, List.map_append, List.nodup_append]
  refine ⟨?_, ?_, ?_⟩
  · rw [complete.map_fst_builtinEntries]
    exact Rule.nodup_all.map fun _ _ => Rule.name_injective
  · exact (catalog.templates.nodup_keys_toList).sublist (List.filter_sublist.map Prod.fst)
  · intro name builtin other inOthers same
    obtain ⟨⟨_, template⟩, listed, rfl⟩ := List.mem_map.1 builtin
    obtain ⟨⟨_, _⟩, otherwise, rfl⟩ := List.mem_map.1 inOthers
    dsimp only at same
    subst same
    exact (mem_builtinEntries_iff.1 listed).2 (mem_otherEntries_iff.1 otherwise).2

/-- **What the list of a catalog is like.** -/
structure WellListed (catalog : Catalog) : Prop where
  /-- Every built-in rule has an entry. -/
  complete : ∀ rule : Rule, ∃ template, catalog.get? rule.name = some template
  /-- The entries are what is found in the catalog. -/
  agrees : ∀ name template : String,
    (name, template) ∈ catalog.entries ↔ catalog.get? name = some template
  /-- No name is listed twice. -/
  once : (catalog.entries.map Prod.fst).Nodup
  /-- The ten built-in rules come first. -/
  builtinFirst : (catalog.entries.map Prod.fst).take 10 = Rule.all.map Rule.name
  /-- The bytes of the other names grow strictly. -/
  othersGrow : ((catalog.entries.map Prod.fst).drop 10).Pairwise fun first second =>
    Text.bytes first < Text.bytes second
  length : catalog.entries.length = catalog.size

/-- A catalog that knows every built-in rule is well listed. Its list holds what its dictionary
holds, and both hold it once. -/
theorem Complete.wellListed (complete : catalog.Complete) : catalog.WellListed where
  complete := complete
  agrees _ _ := mem_entries_iff
  once := complete.nodup_entries
  builtinFirst := by
    rw [entries_eq, List.map_append, complete.map_fst_builtinEntries]
    exact List.take_left' rfl
  othersGrow := by
    have ten : (Rule.all.map Rule.name).length = 10 := rfl
    rw [entries_eq, List.map_append, complete.map_fst_builtinEntries, List.drop_left' ten]
    exact List.pairwise_map.2 pairwise_otherEntries
  length := by
    have perm : catalog.entries.Perm catalog.templates.toList := by
      refine (List.perm_ext_iff_of_nodup (.of_map _ complete.nodup_entries)
        (.of_map _ catalog.templates.nodup_keys_toList)).2 ?_
      rintro ⟨name, template⟩
      exact mem_entries_iff.trans Std.ExtTreeMap.mem_toList_iff_getElem?_eq_some.symm
    rw [perm.length_eq, size, Std.ExtTreeMap.length_toList]

/-! ### What operations write -/

/-- What an operation writes: templates under names, one after the other. A file may be gone
through in any order. An operation whose file cannot be read writes nothing. -/
inductive Operation.Writes : Operation → List (String × String) → Prop
  | set (rule template : String) : Writes (.set rule template) [(rule, template)]
  | extend (overrides : List (String × String)) : Writes (.extend overrides) overrides
  | applyFile {file : CatalogFile} {pairs : List (String × String)}
      (order : pairs.Perm file.messages.toList) : Writes (.applyFile file) pairs
  | applyToml {path text : String} {file : CatalogFile} {pairs : List (String × String)}
      (read : CatalogFile.read? text = some file) (order : pairs.Perm file.messages.toList) :
      Writes (.applyToml path text) pairs
  | load {path : String} {bytes : Option ByteArray} {file : CatalogFile}
      {pairs : List (String × String)} (read : fileOf? bytes = some file)
      (order : pairs.Perm file.messages.toList) : Writes (.load path bytes) pairs
  | malformed {path text : String} (unread : CatalogFile.read? text = none) :
      Writes (.applyToml path text) []
  | unloaded {path : String} {bytes : Option ByteArray} (unread : fileOf? bytes = none) :
      Writes (.load path bytes) []

section Step

variable {operation : Operation}

/-- **An operation that fails has set nothing.** Only what is read can make an operation fail, and
it is read before any of its templates is set. -/
theorem perform_of_error {error : Error} (failed : (catalog.perform operation).2 = some error) :
    (catalog.perform operation).1 = catalog := by
  unfold perform at failed ⊢
  cases operation with
  | set rule template => cases failed
  | extend overrides => cases failed
  | applyFile file => cases failed
  | applyToml path text =>
    cases read : CatalogFile.read? text with
    | none => rw [Operation.change, Change.applyToml_unread read]
    | some file =>
      rw [Operation.change, Change.run_applyToml read] at failed
      cases failed
  | load path bytes =>
    cases read : fileOf? bytes with
    | none =>
      obtain ⟨_, ran⟩ := Change.load_unread read catalog
      rw [Operation.change, ran]
    | some file =>
      rw [Operation.change, Change.run_load read] at failed
      cases failed

theorem applyFile_eq_extend {file : CatalogFile} {pairs : List (String × String)}
    (order : pairs.Perm file.messages.toList) : catalog.applyFile file = catalog.extend pairs :=
  extend_of_perm order.symm file.messages.nodup_keys_toList

/-- **An operation sets what it writes**, one after the other. -/
theorem Operation.Writes.perform_eq {pairs : List (String × String)}
    (written : operation.Writes pairs) :
    (catalog.perform operation).1 = catalog.extend pairs := by
  cases written with
  | set rule template => rfl
  | extend overrides => rfl
  | applyFile order => exact applyFile_eq_extend order
  | applyToml read order =>
    rw [perform, change, Change.run_applyToml read]
    exact applyFile_eq_extend order
  | load read order =>
    rw [perform, change, Change.run_load read]
    exact applyFile_eq_extend order
  | malformed unread =>
    rw [perform, change, Change.applyToml_unread unread]
    rfl
  | unloaded unread =>
    obtain ⟨_, ran⟩ := Change.load_unread unread catalog
    rw [perform, change, ran]
    rfl

theorem Operation.exists_writes (operation : Operation) : ∃ pairs, operation.Writes pairs := by
  cases operation with
  | set rule template => exact ⟨_, .set rule template⟩
  | extend overrides => exact ⟨_, .extend overrides⟩
  | applyFile file => exact ⟨_, .applyFile (.refl _)⟩
  | applyToml path text =>
    cases read : CatalogFile.read? text with
    | none => exact ⟨_, .malformed read⟩
    | some file => exact ⟨_, .applyToml read (.refl _)⟩
  | load path bytes =>
    cases read : fileOf? bytes with
    | none => exact ⟨_, .unloaded read⟩
    | some file => exact ⟨_, .load read (.refl _)⟩

end Step

/-! ### Whole histories -/

variable {operations : List Operation}

theorem exists_forall₂_writes (operations : List Operation) :
    ∃ writes, List.Forall₂ Operation.Writes operations writes := by
  induction operations with
  | nil => exact ⟨[], .nil⟩
  | cons operation rest ih =>
    obtain ⟨pairs, written⟩ := operation.exists_writes
    obtain ⟨writes, later⟩ := ih
    exact ⟨pairs :: writes, .cons written later⟩

/-- **A history sets what its operations write**, one after the other. -/
theorem after_eq_extend {writes : List (List (String × String))}
    (written : List.Forall₂ Operation.Writes operations writes) (catalog : Catalog) :
    catalog.after operations = catalog.extend writes.flatten := by
  induction written generalizing catalog with
  | nil => rfl
  | @cons operation pairs rest later first _ ih =>
    show (catalog.perform operation).1.after rest = _
    rw [ih, first.perform_eq, List.flatten_cons, extend_append]

/-- Setting templates takes none away. -/
theorem Complete.extend (complete : catalog.Complete) (overrides : List (String × String)) :
    (catalog.extend overrides).Complete := by
  intro rule
  obtain ⟨template, found⟩ := complete rule
  rw [get?_extend, found]
  cases overrides.reverse.lookup rule.name with
  | none => exact ⟨template, rfl⟩
  | some later => exact ⟨later, rfl⟩

/-- A catalog stays complete. -/
theorem Complete.after (complete : catalog.Complete) (operations : List Operation) :
    (catalog.after operations).Complete := by
  obtain ⟨writes, written⟩ := exists_forall₂_writes operations
  rw [after_eq_extend written]
  exact complete.extend _

theorem complete_builtin : builtin.Complete := fun rule => by
  rw [get?_builtin, Rule.ofName?_name]
  exact ⟨rule.defaultTemplate, rfl⟩

/-- **Every history of the built-in catalog.** The catalog is well listed, an operation that fails
leaves it as it is, and what is found is the last template that was written under the name, else
the default one of the built-in rule. This holds for whatever the operations may have written, so
the order in which files are gone through makes no difference. -/
theorem history_of_builtin (operations : List Operation) :
    (builtin.after operations).WellListed ∧
    (∀ (operation : Operation) (error : Error),
      ((builtin.after operations).perform operation).2 = some error →
        ((builtin.after operations).perform operation).1 = builtin.after operations) ∧
    (∃ writes, List.Forall₂ Operation.Writes operations writes) ∧
    ∀ writes, List.Forall₂ Operation.Writes operations writes → ∀ name,
      (builtin.after operations).get? name =
        (writes.flatten.reverse.lookup name).or
          ((Rule.ofName? name).map Rule.defaultTemplate) := by
  refine ⟨(complete_builtin.after operations).wellListed, fun operation error => perform_of_error,
    exists_forall₂_writes operations, fun writes written name => ?_⟩
  rw [after_eq_extend written, get?_extend, get?_builtin]

/-- A template that a file brings in front of a load that fails and behind a template of its own
name. -/
theorem history_of_builtin_failed_load :
    let file : CatalogFile := ⟨none, .ofEntries [("required", "Missing!"), ("zeta", "Odd!")]⟩
    let catalog := builtin.after
      [.set "required" "Needed!", .applyFile file, .load "gone.toml" none, .extend [("alpha", "")]]
    catalog.get? "required" = some "Missing!" ∧ catalog.get? "alpha" = some "" ∧
      catalog.get? "str" = some Rule.str.defaultTemplate ∧ catalog.get? "beta" = none := by
  intro file catalog
  obtain ⟨_, _, _, found⟩ := history_of_builtin
    [.set "required" "Needed!", .applyFile file, .load "gone.toml" none, .extend [("alpha", "")]]
  have order : [("zeta", "Odd!"), ("required", "Missing!")].Perm file.messages.toList := by
    decide +kernel
  have written := found _ (.cons (.set _ _) (.cons (.applyFile order)
    (.cons (.unloaded rfl) (.cons (.extend _) .nil))))
  exact ⟨written "required", written "alpha", written "str", written "beta"⟩

end Catalog

end FormRules
