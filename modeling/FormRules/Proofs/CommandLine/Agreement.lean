/-
**Outcome, exit code and output agree.**

A run ends in one of three ways: with an error and nothing written, with the listing of a catalog,
or with a written report. The outcome is read off the report, so it can be read off the output, and
the flags for the layout and for the error mode change neither errors nor outcomes.

* `execute_pair`: the three ends of two runs whose validations are alike;
* `execute_eq_of_listRules`: a listing depends on the catalog files only;
* `read?_reportText` and `exists_reportText_eq`: what a written report reads back as and ends in;
* `validate_eq`: forcing the extended mode changes the mode of a report only;
* `outcome_agrees_with_output` is the result for whole runs.
-/

import FormRules.CommandLine.Session
import FormRules.Proofs.CommandLine.Steps
import FormRules.Proofs.Report.Shape
import FormRules.Proofs.Text.Bytes

namespace FormRules.CommandLine

/-! ### Written reports -/

/-- A written report with its line end reads back as its elements. -/
theorem read?_reportText (report : Report) (pretty : Bool) :
    Json.read? (reportText report pretty) = some (.array report.elements) := by
  have blank : ∀ letter ∈ ['\n'], Json.isGap letter = true := List.forall_mem_singleton.2 rfl
  rw [← report.toJson_eq]
  cases pretty with
  | true => exact Json.read?_pretty_append report.regular_toJson blank
  | false => exact Json.read?_compact_append report.regular_toJson blank

theorem getLast?_text_array (layout : Json.Layout) (level : Nat) (elements : List Json) :
    (layout.text level (.array elements)).getLast? = some ']' := by
  cases elements with
  | nil =>
    rw [Json.Layout.text]
    rfl
  | cons element others =>
    rw [layout.text_array level (List.cons_ne_nil element others), List.getLast?_concat]

/-- A written report is the text of an array and one line end. -/
theorem exists_reportText_eq (report : Report) (pretty : Bool) :
    ∃ text, reportText report pretty = text ++ "\n" ∧ text.toList.getLast? = some ']' ∧
      Json.read? text = some (.array report.elements) := by
  cases pretty with
  | true =>
    refine ⟨report.toJson.pretty, rfl, ?_, report.read?_pretty⟩
    rw [Json.pretty, String.toList_ofList, Json.Layout.prettyText_eq, report.toJson_eq,
      getLast?_text_array]
  | false =>
    refine ⟨report.toJson.compact, rfl, ?_, report.read?_compact⟩
    rw [Json.compact, String.toList_ofList, Json.Layout.compactText_eq 0, report.toJson_eq,
      getLast?_text_array]

/-! ### Requests on the standard input -/

/-- The request of a run, in terms of its text. -/
theorem readRequest_of_text {config : Config} {surroundings : Surroundings} {text : String}
    (given : requestText config surroundings = .ok text) :
    readRequest config surroundings =
      (Request.read? text).elim (.error .requestMalformed) fun request =>
        .ok (if config.forceExtended then { request with mode := .extended } else request) := by
  rw [readRequest, given]
  cases read : Request.read? text with
  | none => simp only [bind, Except.bind, read, Option.elim]
  | some request => simp only [bind, Except.bind, read, Option.elim, pure, Except.pure]

/-- The request that is written to the standard input is read. -/
theorem readRequest_of_input {config : Config} {surroundings : Surroundings} {document : Json}
    {request : Request} (fromInput : config.requestPath = none)
    (unforced : config.forceExtended = false) (regular : Json.Regular document)
    (input : surroundings.input = document.compact.toUTF8)
    (isRequest : Request.ofJson? document = some request) :
    readRequest config surroundings = .ok request := by
  have text : requestText config surroundings = .ok document.compact := by
    rw [requestText, fromInput, input]
    simp only [Text.fromUTF8?_toUTF8]
  rw [readRequest_of_text text, Request.read?, Json.read?_compact regular, Option.bind_some,
    isRequest, unforced]
  rfl

/-! ### The mode of a run -/

/-- The configuration of a run that leaves the mode to the request. -/
abbrev Config.unforced (config : Config) : Config :=
  { config with forceExtended := false }

theorem readRequest_eq (config : Config) (surroundings : Surroundings) :
    readRequest config surroundings =
      (readRequest config.unforced surroundings).map fun request =>
        if config.forceExtended then { request with mode := .extended } else request := by
  have sameText : requestText config.unforced surroundings = requestText config surroundings := rfl
  cases given : requestText config surroundings with
  | error error =>
    unfold readRequest
    rw [sameText, given]
    rfl
  | ok text =>
    rw [readRequest_of_text given, readRequest_of_text (sameText.trans given)]
    cases Request.read? text <;> rfl

def modeOf (config : Config) (request : Request) : ErrorMode :=
  if config.forceExtended then .extended else request.mode

theorem make_ofRequest_mode (request : Request) (catalog : Catalog) (mode : ErrorMode) :
    (Validator.ofRequest { request with mode := mode } catalog).make { request with mode := mode } =
      ((Validator.ofRequest request catalog).make request).map fun report =>
        { report with mode := mode } :=
  Validator.make_mode (Validator.ofRequest request catalog) mode request

/-- **Forcing the extended mode changes the mode of a report only.** The report of a run over a
catalog, in terms of the request as it was read. -/
theorem validate_eq (config : Config) (surroundings : Surroundings) (catalog : Catalog) :
    validate config surroundings catalog =
      (readRequest config.unforced surroundings).bind fun request =>
        (((Validator.ofRequest request catalog).make request).map fun report =>
          { report with mode := modeOf config request }).mapError .validation := by
  rw [validate, readRequest_eq]
  cases readRequest config.unforced surroundings with
  | error error => rfl
  | ok request =>
    show Except.mapError _ (Validator.make _ _) = Except.mapError _ _
    unfold modeOf
    cases config.forceExtended with
    | true => exact congrArg _ (make_ofRequest_mode request catalog .extended)
    | false => exact congrArg _ (make_ofRequest_mode request catalog request.mode)

/-! ### The ends of a run -/

/-- Two validations of runs that stop with the same error or come to related reports. -/
def Alike (related : Report → Report → Prop) (first second : Except RunError Report) : Prop :=
  (∃ error, first = .error error ∧ second = .error error) ∨
    ∃ report report', first = .ok report ∧ second = .ok report' ∧ related report report'

/-- **The ends of two runs** over the same catalog whose validations are alike: the same error and
nothing written, the same listing, or two related reports. -/
theorem execute_pair {config other : Config} {surroundings : Surroundings}
    {related : Report → Report → Prop} (sameFiles : other.catalogFiles = config.catalogFiles)
    (sameListing : other.listRules = config.listRules)
    (alike : ∀ catalog, Alike related (validate config surroundings catalog)
      (validate other surroundings catalog)) :
    (∃ error, execute config surroundings = ⟨"", .error error⟩ ∧
      execute other surroundings = ⟨"", .error error⟩) ∨
    (config.listRules = true ∧ ∃ catalog,
      execute config surroundings = ⟨listing catalog, .ok .valid⟩ ∧
      execute other surroundings = ⟨listing catalog, .ok .valid⟩) ∨
    (config.listRules = false ∧ ∃ report report', related report report' ∧
      execute config surroundings = ⟨reportText report config.pretty, .ok (.ofReport report)⟩ ∧
      execute other surroundings = ⟨reportText report' other.pretty, .ok (.ofReport report')⟩) := by
  have sameCatalog : other.loadCatalog surroundings.file = config.loadCatalog surroundings.file :=
    Config.loadCatalog_congr sameFiles fun _ _ => rfl
  rw [execute_eq, execute_eq, sameCatalog, sameListing]
  cases config.loadCatalog surroundings.file with
  | error error => exact Or.inl ⟨.catalog error, rfl, rfl⟩
  | ok catalog =>
    cases config.listRules with
    | true => exact Or.inr (Or.inl ⟨rfl, catalog, rfl, rfl⟩)
    | false =>
      obtain ⟨error, stops, stops'⟩ | ⟨report, report', made, made', relation⟩ := alike catalog
      · refine Or.inl ⟨error, ?_, ?_⟩
        · simp only [stops, Bool.false_eq_true, if_false]
        · simp only [stops', Bool.false_eq_true, if_false]
      · refine Or.inr (Or.inr ⟨rfl, report, report', relation, ?_, ?_⟩)
        · simp only [made, Bool.false_eq_true, if_false]
        · simp only [made', Bool.false_eq_true, if_false]

section Alike

variable (config : Config) (surroundings : Surroundings) (catalog : Catalog)

theorem alike_self :
    Alike (fun report report' => report' = report ∧
        ∃ request, readRequest config.unforced surroundings = .ok request ∧
          report.mode = modeOf config request)
      (validate config surroundings catalog) (validate config surroundings catalog) := by
  rw [validate_eq]
  cases readRequest config.unforced surroundings with
  | error error => exact Or.inl ⟨error, rfl, rfl⟩
  | ok request =>
    show Alike _ (Except.mapError _ (Except.map _ _)) (Except.mapError _ (Except.map _ _))
    cases (Validator.ofRequest request catalog).make request with
    | error error => exact Or.inl ⟨.validation error, rfl, rfl⟩
    | ok report => exact Or.inr ⟨_, _, rfl, rfl, rfl, request, rfl, rfl⟩

theorem alike_pretty (pretty : Bool) :
    Alike (fun report report' => report' = report) (validate config surroundings catalog)
      (validate { config with pretty := pretty } surroundings catalog) := by
  have same : validate { config with pretty := pretty } surroundings catalog =
      validate config surroundings catalog := rfl
  rw [same]
  cases validate config surroundings catalog with
  | error error => exact Or.inl ⟨error, rfl, rfl⟩
  | ok report => exact Or.inr ⟨report, report, rfl, rfl, rfl⟩

theorem alike_forced (forced : Bool) :
    Alike (fun report report' => report'.failures = report.failures)
      (validate config surroundings catalog)
      (validate { config with forceExtended := forced } surroundings catalog) := by
  rw [validate_eq, validate_eq]
  cases readRequest config.unforced surroundings with
  | error error => exact Or.inl ⟨error, rfl, rfl⟩
  | ok request =>
    show Alike _ (Except.mapError _ (Except.map _ _)) (Except.mapError _ (Except.map _ _))
    cases (Validator.ofRequest request catalog).make request with
    | error error => exact Or.inl ⟨.validation error, rfl, rfl⟩
    | ok report => exact Or.inr ⟨_, _, rfl, rfl, rfl⟩

end Alike

/-! ### The result -/

theorem execute_eq_of_listRules {config other : Config} {surroundings surroundings' : Surroundings}
    (lists : config.listRules = true) (lists' : other.listRules = true)
    (sameFiles : other.catalogFiles = config.catalogFiles)
    (sameContents : ∀ path ∈ config.catalogFiles,
      surroundings'.file path = surroundings.file path) :
    execute other surroundings' = execute config surroundings := by
  rw [execute_eq, execute_eq, Config.loadCatalog_congr sameFiles sameContents, lists, lists']
  rfl

/-- The outcome of a report and its exit code, read off its elements. -/
theorem ofReport_cases (report : Report) :
    (report.elements = [] ∧ Outcome.ofReport report = .valid ∧
      Session.exitCodeOf (.ofReport report) = 0) ∨
    (report.elements ≠ [] ∧ Outcome.ofReport report = .invalid ∧
      Session.exitCodeOf (.ofReport report) = 1) := by
  unfold Outcome.ofReport
  by_cases valid : report.isValid = true
  · exact Or.inl ⟨report.elements_eq_nil_iff.2 valid, if_pos valid, by rw [if_pos valid]; rfl⟩
  · exact Or.inr ⟨fun nothing => valid (report.elements_eq_nil_iff.1 nothing), if_neg valid,
      by rw [if_neg valid]; rfl⟩

theorem ofConfig_of_ok {config : Config} {surroundings : Surroundings} {output : String}
    {outcome : Outcome} (ran : execute config surroundings = ⟨output, .ok outcome⟩) :
    (Session.ofConfig config surroundings).output = output ∧
      (Session.ofConfig config surroundings).exitCode = Session.exitCodeOf outcome := by
  rw [Session.ofConfig, ran]
  exact ⟨rfl, rfl⟩

section Parts

variable {config : Config} {surroundings : Surroundings}

theorem output_of_error {error : RunError}
    (failed : (execute config surroundings).result = .error error) :
    execute config surroundings = ⟨"", .error error⟩ := by
  obtain ⟨other, ran, _⟩ | ⟨_, catalog, ran, _⟩ | ⟨_, report, _, _, ran, _⟩ :=
    execute_pair rfl rfl (alike_self config surroundings)
  · rw [ran] at failed ⊢
    rw [Except.error.inj failed]
  · rw [ran] at failed
    cases failed
  · rw [ran] at failed
    cases failed

/-- The report behind the outcome of a run that lists no catalog. -/
theorem exists_report_of_ok (validates : config.listRules = false) {outcome : Outcome}
    (ended : (execute config surroundings).result = .ok outcome) :
    ∃ report request, readRequest config.unforced surroundings = .ok request ∧
      report.mode = modeOf config request ∧ outcome = .ofReport report ∧
      execute config surroundings = ⟨reportText report config.pretty, .ok outcome⟩ := by
  obtain ⟨error, ran, _⟩ | ⟨lists, _⟩ | ⟨_, report, _, ⟨_, request, read, mode⟩, ran, _⟩ :=
    execute_pair rfl rfl (alike_self config surroundings)
  · rw [ran] at ended
    cases ended
  · rw [validates] at lists
    cases lists
  · rw [ran] at ended
    obtain rfl : Outcome.ofReport report = outcome := Except.ok.inj ended
    exact ⟨report, request, read, mode, rfl, ran⟩

/-- The elements of a report have the shape of the mode of the run. -/
theorem elements_of_mode {report : Report} {request : Request}
    (mode : report.mode = modeOf config request) :
    if config.forceExtended = true ∨ request.mode = .extended then
      ∀ element ∈ report.elements, Report.IsRecord element
    else ∀ element ∈ report.elements, Report.IsMessage element := by
  unfold modeOf at mode
  split
  · next extended =>
    have isExtended : report.mode = .extended := by
      rw [mode]
      obtain forced | asked := extended
      · exact if_pos forced
      · rw [asked, ite_self]
    exact fun element => Report.isRecord_of_mem_elements isExtended
  · next neither =>
    obtain ⟨notForced, notAsked⟩ := not_or.1 neither
    have isSimple : report.mode = .simple := by
      rw [mode, if_neg notForced]
      cases asked : request.mode with
      | simple => rfl
      | extended => exact absurd asked notAsked
    exact fun element => Report.isMessage_of_mem_elements isSimple

/-- Another layout: the same result, the same listing, the same array. -/
theorem execute_pretty (pretty : Bool) :
    let other := execute { config with pretty := pretty } surroundings
    other.result = (execute config surroundings).result ∧
      (config.listRules = true → other.output = (execute config surroundings).output) ∧
      (config.listRules = false →
        Json.read? other.output = Json.read? (execute config surroundings).output) := by
  intro other
  obtain ⟨error, ran, ran'⟩ | ⟨lists, catalog, ran, ran'⟩ |
    ⟨validates, report, report', rfl, ran, ran'⟩ :=
    @execute_pair config { config with pretty := pretty } surroundings _ rfl rfl
      (alike_pretty config surroundings · pretty)
  · rw [ran, show other = _ from ran']
    exact ⟨rfl, fun _ => rfl, fun _ => rfl⟩
  · rw [ran, show other = _ from ran']
    exact ⟨rfl, fun _ => rfl, fun _ => rfl⟩
  · rw [ran, show other = _ from ran', validates]
    refine ⟨rfl, fun lists => Bool.noConfusion lists, fun _ => ?_⟩
    rw [read?_reportText, read?_reportText]

/-- Another mode: the same result, the same listing, the same messages in the array. -/
theorem execute_forced (forced : Bool) :
    let other := execute { config with forceExtended := forced } surroundings
    other.result = (execute config surroundings).result ∧
      (config.listRules = true → other.output = (execute config surroundings).output) ∧
      (config.listRules = false → ∀ elements,
        Json.read? (execute config surroundings).output = some (.array elements) →
        ∃ elements', Json.read? other.output = some (.array elements') ∧
          elements'.map Report.messageOf? = elements.map Report.messageOf?) := by
  intro other
  obtain ⟨error, ran, ran'⟩ | ⟨lists, catalog, ran, ran'⟩ |
    ⟨validates, report, report', sameFailures, ran, ran'⟩ :=
    @execute_pair config { config with forceExtended := forced } surroundings _ rfl rfl
      (alike_forced config surroundings · forced)
  · rw [ran, show other = _ from ran']
    exact ⟨rfl, fun _ => rfl, fun _ elements read => ⟨elements, read, rfl⟩⟩
  · rw [ran, show other = _ from ran']
    exact ⟨rfl, fun _ => rfl, fun _ elements read => ⟨elements, read, rfl⟩⟩
  · have sameMessages : report'.messages = report.messages := by
      rw [Report.messages, sameFailures, Report.messages]
    have sameValidity : report'.isValid = report.isValid := by
      rw [Report.isValid, sameFailures, Report.isValid]
    rw [ran, show other = _ from ran', validates, Outcome.ofReport, sameValidity]
    refine ⟨rfl, fun lists => Bool.noConfusion lists, fun _ elements read => ?_⟩
    rw [read?_reportText] at read
    obtain rfl : report.elements = elements := Json.array.inj (Option.some.inj read)
    refine ⟨report'.elements, read?_reportText _ _, ?_⟩
    rw [Report.map_messageOf?_elements, Report.map_messageOf?_elements, sameMessages]

end Parts

/-- **Outcome, exit code and output agree.** An error leaves no output and the exit code 2. A
listing depends on the catalog files only, and its outcome is `valid` if they can be loaded. Any
other run with an outcome writes one array and one line end; the array is empty exactly for the
outcome `valid` with the exit code 0, and otherwise the outcome is `invalid` with the exit code 1;
its elements are records if the extended mode was forced or asked for, and texts otherwise. The
layout changes neither the result nor the array that is read back, and forcing the extended mode
changes neither the result nor the messages in the array. -/
theorem outcome_agrees_with_output (config : Config) (surroundings : Surroundings) :
    (∀ error, (execute config surroundings).result = .error error →
      (execute config surroundings).output = "" ∧
      (Session.ofConfig config surroundings).output = "" ∧
      (Session.ofConfig config surroundings).exitCode = 2) ∧
    (config.listRules = true →
      (∀ (other : Config) (surroundings' : Surroundings), other.listRules = true →
        other.catalogFiles = config.catalogFiles →
        (∀ path ∈ config.catalogFiles, surroundings'.file path = surroundings.file path) →
        execute other surroundings' = execute config surroundings) ∧
      ∀ catalog, config.loadCatalog surroundings.file = .ok catalog →
        (execute config surroundings).result = .ok .valid ∧
        (Session.ofConfig config surroundings).exitCode = 0) ∧
    (config.listRules = false → ∀ outcome, (execute config surroundings).result = .ok outcome →
      ∃ request text elements, readRequest config.unforced surroundings = .ok request ∧
        (execute config surroundings).output = text ++ "\n" ∧
        (Session.ofConfig config surroundings).output = text ++ "\n" ∧
        text.toList.getLast? = some ']' ∧ Json.read? text = some (.array elements) ∧
        ((elements = [] ∧ outcome = .valid ∧
            (Session.ofConfig config surroundings).exitCode = 0) ∨
          (elements ≠ [] ∧ outcome = .invalid ∧
            (Session.ofConfig config surroundings).exitCode = 1)) ∧
        if config.forceExtended = true ∨ request.mode = .extended then
          ∀ element ∈ elements, Report.IsRecord element
        else ∀ element ∈ elements, Report.IsMessage element) ∧
    (∀ pretty, let other := execute { config with pretty := pretty } surroundings
      other.result = (execute config surroundings).result ∧
      (config.listRules = true → other.output = (execute config surroundings).output) ∧
      (config.listRules = false →
        Json.read? other.output = Json.read? (execute config surroundings).output)) ∧
    ∀ forced, let other := execute { config with forceExtended := forced } surroundings
      other.result = (execute config surroundings).result ∧
      (config.listRules = true → other.output = (execute config surroundings).output) ∧
      (config.listRules = false → ∀ elements,
        Json.read? (execute config surroundings).output = some (.array elements) →
        ∃ elements', Json.read? other.output = some (.array elements') ∧
          elements'.map Report.messageOf? = elements.map Report.messageOf?) := by
  refine ⟨fun error failed => ?_, fun lists => ⟨?_, fun catalog loaded => ?_⟩, ?_,
    execute_pretty, execute_forced⟩
  · have ran := output_of_error failed
    rw [Session.ofConfig, ran]
    exact ⟨rfl, rfl, rfl⟩
  · intro other surroundings' lists' sameFiles sameContents
    exact execute_eq_of_listRules lists lists' sameFiles sameContents
  · have ran : execute config surroundings = ⟨listing catalog, .ok .valid⟩ := by
      rw [execute_eq, loaded]
      exact if_pos lists
    exact ⟨by rw [ran], (ofConfig_of_ok ran).2⟩
  · intro validates outcome ended
    obtain ⟨report, request, read, mode, rfl, ran⟩ := exists_report_of_ok validates ended
    obtain ⟨text, written, last, readText⟩ := exists_reportText_eq report config.pretty
    obtain ⟨sameOutput, exitCode⟩ := ofConfig_of_ok ran
    refine ⟨request, text, report.elements, read, ?_, ?_, last, readText, ?_,
      elements_of_mode mode⟩
    · rw [ran, written]
    · rw [sameOutput, written]
    · rw [exitCode]
      exact ofReport_cases report

/-- A request file that is missing, a listing, and a field without its value. -/
theorem outcome_agrees_with_output_missing_value :
    let document : Json := .ofEntries [("rules", .ofEntries [("name", .ofText "required")])]
    let config : Config := ⟨none, [], false, false, true, "warn"⟩
    let surroundings : Surroundings := ⟨fun _ => none, document.compact.toUTF8⟩
    (Session.ofConfig { config with requestPath := some "form.json" } surroundings).exitCode = 2 ∧
    (Session.ofConfig { config with listRules := true } surroundings).exitCode = 0 ∧
    config.listRules = false ∧
    (execute config surroundings).result = .ok .invalid ∧
    (Session.ofConfig config surroundings).exitCode = 1 := by
  intro document config surroundings
  have regular : Json.Regular document := by
    refine .object fun entry member => ?_
    obtain rfl := List.mem_singleton.1 member
    refine .object fun entry member => ?_
    obtain rfl := List.mem_singleton.1 member
    exact .string _
  have read : readRequest config surroundings = .ok (Request.build [.rule "name" "required"]) :=
    readRequest_of_input rfl rfl regular rfl rfl
  have ended : (execute config surroundings).result = .ok .invalid := by
    let request := Request.build [.rule "name" "required"]
    obtain ⟨report, made, invalid⟩ : ∃ report,
        (Validator.ofRequest request .builtin).make request = .ok report ∧ report.isValid = false :=
      ⟨_, Validator.make_eq_ok_iff.2 ⟨rfl, rfl⟩, rfl⟩
    have validated : validate config surroundings .builtin = .ok report := by
      rw [validate, read]
      exact congrArg (Except.mapError RunError.validation) made
    have loaded : config.loadCatalog surroundings.file = .ok .builtin := rfl
    have noListing : config.listRules = false := rfl
    rw [execute_eq, loaded, noListing]
    simp only [validated, Bool.false_eq_true, if_false, Outcome.ofReport, invalid]
  obtain ⟨_, _, whole, _⟩ := outcome_agrees_with_output config surroundings
  obtain ⟨_, _, _, _, _, _, _, _, agrees, _⟩ := whole rfl .invalid ended
  obtain ⟨_, impossible, _⟩ | ⟨_, _, exitCode⟩ := agrees
  · cases impossible
  refine ⟨?_, ?_, rfl, ended, exitCode⟩
  · obtain ⟨failed, _⟩ := outcome_agrees_with_output
      { config with requestPath := some "form.json" } surroundings
    exact (failed (.requestFile "form.json") rfl).2.2
  · obtain ⟨_, lists, _⟩ :=
      outcome_agrees_with_output { config with listRules := true } surroundings
    exact ((lists rfl).2 .builtin rfl).2

end FormRules.CommandLine
