/-
**The steps of a run.**

A run loads its catalog files and then writes either the catalog or a report. Everything that can
fail comes before the first text that is written.

* `Config.loadCatalog_eq_ok_iff`: the catalog of a run is the built-in one with its files layered
  over it, and `Config.loadCatalog_congr`: only their contents count;
* `Steps.run_writeCatalog` and `Steps.run_writeReport`: what is written, in terms of the texts
  `listing` and `reportText`;
* `execute_eq`: a run by the way it ends.
-/

import FormRules.CommandLine.Run
import FormRules.Proofs.Catalog.Lookup

namespace FormRules.CommandLine

/-! ### The catalog of a run -/

section Catalogs

variable {config other : Config} {file file' : String → Option ByteArray}

/-- **The catalog of a run can be loaded exactly if all catalog files can be read**, and they are
layered over the built-in catalog in their order. -/
theorem Config.loadCatalog_eq_ok_iff {catalog : Catalog} :
    config.loadCatalog file = .ok catalog ↔
      ∃ files, config.catalogFiles.mapM (fun path => Catalog.fileOf? (file path)) = some files ∧
        catalog = files.foldl Catalog.applyFile .builtin := by
  rw [loadCatalog, Catalog.changed_loadAll_eq_ok_iff, List.mapM_map]
  rfl

/-- The catalog of a run depends on the content of its catalog files only. -/
theorem Config.loadCatalog_congr (sameFiles : other.catalogFiles = config.catalogFiles)
    (sameContents : ∀ path ∈ config.catalogFiles, file' path = file path) :
    other.loadCatalog file' = config.loadCatalog file := by
  have same : (other.catalogFiles.map fun path => (path, file' path)) =
      config.catalogFiles.map fun path => (path, file path) := by
    rw [sameFiles]
    exact List.map_congr_left fun path member => by rw [sameContents path member]
  rw [loadCatalog, loadCatalog, same]

end Catalogs

/-! ### What is written -/

/-- The lines of a catalog: on each of them a rule name, a tabulator and a template. -/
def listing (catalog : Catalog) : String :=
  String.join (catalog.entries.map fun entry => entry.1 ++ "\t" ++ entry.2 ++ "\n")

/-- The text of a report with a line end. -/
def reportText (report : Report) (pretty : Bool) : String :=
  (if pretty then report.toJson.pretty else report.toJson.compact) ++ "\n"

namespace Steps

/-- Texts that are written one after the other stand behind what was written before. -/
theorem run_forM_write {α : Type} (text : α → String) (items : List α) (output : String) :
    (forM items fun item => write (text item)).run output =
      .ok () (output ++ String.join (items.map text)) := by
  induction items generalizing output with
  | nil =>
    rw [List.map_nil, String.join_nil, String.append_empty]
    rfl
  | cons item rest ih =>
    rw [List.forM_cons, EStateM.run_bind, write, EStateM.run_modify, List.map_cons,
      String.join_cons, ← String.append_assoc]
    exact ih _

/-- A result that is no error is passed on, and an error ends the steps. -/
theorem run_liftExcept_bind {α β : Type} (result : Except RunError α) (next : α → Steps β)
    (output : String) :
    (liftExcept result >>= next : Steps β).run output =
      match result with
      | .ok value => (next value).run output
      | .error error => .error error output := by
  cases result <;> rfl

theorem run_writeCatalog (catalog : Catalog) (output : String) :
    (writeCatalog catalog).run output = .ok () (output ++ listing catalog) :=
  run_forM_write _ _ _

theorem run_writeReport (report : Report) (pretty : Bool) (output : String) :
    (writeReport report pretty).run output = .ok () (output ++ reportText report pretty) := by
  rw [reportText, ← String.append_assoc]
  rfl

end Steps

/-! ### The ends of a run -/

/-- **How a run ends.** Whatever makes a run fail comes before the first text is written, so the
output of a run that fails is empty. -/
theorem execute_eq (config : Config) (surroundings : Surroundings) :
    execute config surroundings =
      match config.loadCatalog surroundings.file with
      | .error error => ⟨"", .error (.catalog error)⟩
      | .ok catalog =>
        if config.listRules then
          ⟨listing catalog, .ok .valid⟩
        else
          match validate config surroundings catalog with
          | .error error => ⟨"", .error error⟩
          | .ok report => ⟨reportText report config.pretty, .ok (.ofReport report)⟩ := by
  unfold execute Steps.ofConfig
  rw [Steps.run_liftExcept_bind]
  cases config.loadCatalog surroundings.file with
  | error error => rfl
  | ok catalog =>
    dsimp only [Except.mapError]
    by_cases lists : config.listRules = true
    · rw [if_pos lists, if_pos lists, EStateM.run_bind, Steps.run_writeCatalog, String.empty_append]
      rfl
    · rw [if_neg lists, if_neg lists, Steps.run_liftExcept_bind]
      cases validate config surroundings catalog with
      | error error => rfl
      | ok report =>
        dsimp only
        rw [EStateM.run_bind, Steps.run_writeReport, String.empty_append]
        rfl

end FormRules.CommandLine
