/-
**The layers of a message.**

The template of a message is looked for in the request, then in the catalog files from the last one
to the first one, then among the built-in rules. An empty template counts as none in a request and
as a template in a file.

* `nonEmptyOr` is what a request says before what it does not say, `lastTemplate?` is what the
  files say, and `Request.layered` is the record that comes out of all layers;
* `Catalog.templateFor_layers`: what is found in the catalog of files that can be read;
* `messages_are_layered` is the result for the records of a run.
-/

import FormRules.Proofs.CommandLine.Steps
import FormRules.Proofs.Validation.Records

namespace FormRules

/-! ### Layers -/

/-- A text unless there is none or it is empty, and what lies below it then. -/
def nonEmptyOr (own : Option String) (below : String) : String :=
  match own with
  | some text => if text = "" then below else text
  | none => below

theorem getD_filter_ne_empty (own : Option String) (below : String) :
    (own.filter (· ≠ "")).getD below = nonEmptyOr own below := by
  cases own with
  | none => rfl
  | some text =>
    by_cases empty : text = "" <;> simp [nonEmptyOr, Option.filter, empty]

/-- The template of a rule name in the last file that has one for it, be it empty. -/
def lastTemplate? (files : List CatalogFile) (rule : String) : Option String :=
  files.reverse.findSome? fun file => file.messages.get? rule

/-- The template of a rule name below all files: the default one of the built-in rule of that name,
and the fallback if there is no such rule. -/
def lowestTemplate (rule : String) : String :=
  ((Rule.ofName? rule).map Rule.defaultTemplate).getD fallbackTemplate

/-- The record of a failure as the layers word it: labels and templates of the request where they
are not empty, then the files, and then the template that is given. -/
def Request.layered (request : Request) (files : List CatalogFile) (lowest field rule : String)
    (parameter : Option String) : Failure :=
  let label := nonEmptyOr (request.labels.get? field) field
  let template := nonEmptyOr (request.messages.get? rule) ((lastTemplate? files rule).getD lowest)
  { rule, field, label, message := Template.render template label parameter, parameter }

/-! ### The catalog of files -/

namespace Catalog

/-- The last file with a template for a name decides, and what was there before where there is no
such file. -/
theorem get?_foldl_applyFile (files : List CatalogFile) (catalog : Catalog) (name : String) :
    (files.foldl applyFile catalog).get? name =
      (lastTemplate? files name).or (catalog.get? name) := by
  induction files generalizing catalog with
  | nil => rfl
  | cons file rest ih =>
    rw [List.foldl_cons, ih, get?_applyFile, lastTemplate?, lastTemplate?, List.reverse_cons,
      List.findSome?_append, Option.or_assoc]
    simp

/-- **The template of a name in layered files**: that of the last file with one, else the lowest. -/
theorem templateFor_layers (files : List CatalogFile) (name : String) :
    (files.foldl applyFile builtin).templateFor name =
      (lastTemplate? files name).getD (lowestTemplate name) := by
  rw [templateFor, get?_foldl_applyFile, get?_builtin, Option.getD_or]
  rfl

end Catalog

/-! ### The records of a validator over layered files -/

/-- What the failure of a call is, if the check takes it from what it got to see. -/
theorem Validator.fail_inputFor {validator : Validator} {files : List CatalogFile}
    (loaded : validator.catalog = files.foldl Catalog.applyFile .builtin) (request : Request)
    (field : String) (call : Call) (resolved : Resolved) :
    (validator.inputFor request field call resolved).fail =
      request.layered files (lowestTemplate call.name) field call.name
        (resolved.parameter call.parameter) := by
  have label : request.labelFor field = nonEmptyOr (request.labels.get? field) field :=
    getD_filter_ne_empty _ _
  have template : validator.templateFor request call.name =
      nonEmptyOr (request.messages.get? call.name)
        ((lastTemplate? files call.name).getD (lowestTemplate call.name)) := by
    rw [templateFor, Request.template?, getD_filter_ne_empty, loaded, Catalog.templateFor_layers]
  rw [CheckInput.fail, inputFor, Request.layered, label, template]

namespace CommandLine

theorem exists_request_of_validate {config : Config} {surroundings : Surroundings}
    {catalog : Catalog} {report : Report}
    (validated : validate config surroundings catalog = .ok report) :
    ∃ request, readRequest config surroundings = .ok request ∧
      (Validator.ofRequest request catalog).make request = .ok report := by
  unfold validate at validated
  cases read : readRequest config surroundings with
  | error error =>
    rw [read] at validated
    cases validated
  | ok request =>
    rw [read] at validated
    refine ⟨request, rfl, ?_⟩
    have validated : ((Validator.ofRequest request catalog).make request).mapError _ = _ :=
      validated
    cases made : (Validator.ofRequest request catalog).make request with
    | error error =>
      rw [made] at validated
      cases validated
    | ok reported =>
      rw [made] at validated
      exact congrArg Except.ok (Except.ok.inj validated)

/-- **Messages are layered.** The catalog files of a run are that of the user, if there is one, and
then the one of the arguments. If all catalog files of a run can be read, the catalog can be loaded,
and every report over it - that of the run among them - has one record for each call that has
failed. The record of a built-in rule has the label, the template and the parameter of the layers,
and so has the record of a registered check of another name that takes its failure from what it got
to see, with the parameter as it is written. -/
theorem messages_are_layered (config : Config) (surroundings : Surroundings)
    (files : List CatalogFile)
    (read : config.catalogFiles.mapM (fun path => Catalog.fileOf? (surroundings.file path)) =
      some files) :
    (∀ (arguments : Arguments) (userCatalog : Option String),
      (Config.ofArguments arguments userCatalog).catalogFiles =
        userCatalog.toList ++ arguments.messages.toList) ∧
    ∃ catalog, config.loadCatalog surroundings.file = .ok catalog ∧
      (∀ report, validate config surroundings catalog = .ok report →
        ∃ request, readRequest config surroundings = .ok request ∧
          (Validator.ofRequest request catalog).make request = .ok report) ∧
      ∀ (request : Request) (report : Report),
        (Validator.ofRequest request catalog).make request = .ok report →
        (report.failures = request.calls.filterMap fun origin => Outcome.failure?
          ((Validator.ofRequest request catalog).runCall request origin.1 origin.2)) ∧
        ∀ field call failure, (field, call) ∈ request.calls →
          (Validator.ofRequest request catalog).runCall request field call = .ok (some failure) →
          (∀ rule, request.callbacks.get? call.name = none → Rule.ofName? call.name = some rule →
            failure = request.layered files rule.defaultTemplate field call.name
              (if rule.takesParameter then call.parameter else none)) ∧
          ∀ check, request.callbacks.get? call.name = some check → Rule.ofName? call.name = none →
            failure = ((Validator.ofRequest request catalog).inputFor request field call
              (.registered check)).fail →
            failure = request.layered files fallbackTemplate field call.name call.parameter := by
  refine ⟨fun arguments userCatalog => rfl, _, Config.loadCatalog_eq_ok_iff.2 ⟨files, read, rfl⟩,
    fun report => exists_request_of_validate, fun request report made =>
    ⟨Validator.failures_of_make made, ?_⟩⟩
  intro field call failure _ failed
  have loaded : (Validator.ofRequest request
      (files.foldl Catalog.applyFile .builtin)).catalog = files.foldl Catalog.applyFile .builtin :=
    rfl
  have sameChecks : (Validator.ofRequest request
      (files.foldl Catalog.applyFile .builtin)).callbacks = request.callbacks := by
    rw [Validator.ofRequest_eq]
  constructor
  · intro rule unregistered found
    rw [← sameChecks] at unregistered
    have lowest : lowestTemplate call.name = rule.defaultTemplate := by
      rw [lowestTemplate, found]
      rfl
    rw [Validator.eq_fail_of_runCall unregistered found failed, Validator.fail_inputFor loaded,
      lowest]
    rfl
  · intro check _ unknown plain
    have lowest : lowestTemplate call.name = fallbackTemplate := by
      rw [lowestTemplate, unknown]
      rfl
    rw [plain, Validator.fail_inputFor loaded, lowest]
    rfl

/-- A catalog file that brings one template is read. -/
theorem read?_empty_template :
    CatalogFile.read? "messages.str=\"\"" = some ⟨none, .ofEntries [("str", "")]⟩ := by
  have parts : (CatalogFile.read? "messages.str=\"\"").map (fun file =>
      (file.description, file.messages)) = some (none, .ofEntries [("str", "")]) := by
    decide +kernel
  obtain ⟨⟨_, _⟩, read, same⟩ := Option.map_eq_some_iff.1 parts
  rw [read]
  cases same
  rfl

/-- The empty template of a file counts, that of the request does not, and a registered check has
the template for rules without any. -/
theorem messages_are_layered_empty_templates :
    let config := Config.ofArguments ⟨none, some "run.toml", false, false, false, "warn"⟩ none
    let surroundings : Surroundings := ⟨fun _ => some "messages.str=\"\"".toUTF8, .empty⟩
    let request := Request.build
      [.field "age" (.bool true) "str:1|odd:2", .label "age" "Age", .message "str" "",
       .callback "odd" fun input => .ok (some input.fail)]
    ∃ catalog report, config.loadCatalog surroundings.file = .ok catalog ∧
      (Validator.ofRequest request catalog).make request = .ok report ∧
      report.failures =
        [⟨"str", "age", "Age", Template.render "" "Age" none, none⟩,
         ⟨"odd", "age", "Age", Template.render fallbackTemplate "Age" (some "2"), some "2"⟩] := by
  intro config surroundings request
  have readable : config.catalogFiles.mapM (fun path => Catalog.fileOf? (surroundings.file path)) =
      some [⟨none, .ofEntries [("str", "")]⟩] := by
    show ["run.toml"].mapM (fun _ => Catalog.fileOf? (some "messages.str=\"\"".toUTF8)) = _
    rw [Catalog.fileOf?_of_read read?_empty_template]
    rfl
  obtain ⟨_, catalog, loaded, _, records⟩ :=
    messages_are_layered config surroundings _ readable
  have made : (Validator.ofRequest request catalog).make request = .ok _ :=
    Validator.make_eq_ok_iff.2 ⟨rfl, rfl⟩
  have wording := (records request _ made).2
  refine ⟨catalog, _, loaded, made, ?_⟩
  have first := (wording "age" ⟨"str", some "1"⟩ _ (by decide) rfl).1 .str rfl rfl
  have second := (wording "age" ⟨"odd", some "2"⟩ _ (by decide) rfl).2 _ rfl rfl rfl
  exact congrArg₂ (fun first second => [first, second]) first second

end CommandLine

end FormRules
