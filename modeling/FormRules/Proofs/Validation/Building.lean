/-
**Building validators.**

What a validator is built to be is decided by the last step that speaks of it: the last mode, the
last catalog with the templates laid over it since, and for every name the last check registered
under it. A validation looks at nothing else, and for a request only at the names that it calls.

* `Validator.mode_build`, `Validator.catalog_build` and `Validator.get?_callbacks_build`: what
  steps build;
* `Validator.AlikeOn.make_eq`: validators that differ only under names that a request does not call
  validate it alike;
* `Validator.alikeOn_build_swap`: steps of different kinds may be swapped unless they clash;
* `Validator.last_writer_wins` is the result.
-/

import FormRules.Proofs.Catalog.Lookup
import FormRules.Proofs.Validation.Scan
import Mathlib.Data.List.DropRight
import Mathlib.Data.Set.Insert

namespace FormRules

/-- The names that the rule strings of a request call. A rule string that cannot be read calls
none. -/
def Request.called (request : Request) : Set String :=
  {name | ∃ entry ∈ request.rules.entries, ∃ calls, Call.parse entry.1 entry.2 = .ok calls ∧
    ∃ call ∈ calls, call.name = name}

namespace Validator

/-! ### What a validation looks at -/

/-- Validators with the same catalog and mode that find the same checks under some names. -/
structure AlikeOn (names : Set String) (first second : Validator) : Prop where
  catalog : first.catalog = second.catalog
  mode : first.mode = second.mode
  resolve : ∀ name ∈ names, first.resolve name = second.resolve name

namespace AlikeOn

variable {first second : Validator} {request : Request}

theorem runCall_eq {names : Set String} (alike : AlikeOn names first second) {call : Call}
    (known : call.name ∈ names) (field : String) :
    first.runCall request field call = second.runCall request field call := by
  have sameInput : first.inputFor request field call = second.inputFor request field call := by
    funext resolved
    rw [inputFor, inputFor, templateFor, templateFor, alike.catalog]
  rw [runCall, runCall, alike.resolve _ known, sameInput]

theorem fieldOutcomes_eq (alike : AlikeOn request.called first second) {entry : String × String}
    (member : entry ∈ request.rules.entries) :
    first.fieldOutcomes request entry = second.fieldOutcomes request entry := by
  rw [fieldOutcomes, fieldOutcomes]
  split
  · rfl
  · next solid =>
    refine List.map_congr_left fun text inTexts => ?_
    have known : (Segment.callOf text).name ∈ request.called :=
      ⟨entry, member, _, (Call.parse_eq entry.1 entry.2).trans (if_neg solid), _,
        List.mem_map_of_mem inTexts, rfl⟩
    rw [← runCall_callOf, ← runCall_callOf, alike.runCall_eq known]

/-- **A validation depends on the checks of the called names only.** -/
theorem make_eq (alike : AlikeOn request.called first second) :
    first.make request = second.make request := by
  rw [make_eq_extend, make_eq_extend, alike.mode, outcomes, outcomes,
    List.flatMap_congr fun _ member => alike.fieldOutcomes_eq member]

end AlikeOn

namespace Builder

/-! ### What a step writes -/

namespace Step

inductive Kind where
  | mode
  | catalog
  | messages
  | callback
  | callbacks
deriving DecidableEq

def kind : Step → Kind
  | .mode _ => .mode
  | .catalog _ => .catalog
  | .messages _ => .messages
  | .callback _ _ => .callback
  | .callbacks _ => .callbacks

def mode? : Step → Option ErrorMode
  | .mode chosen => some chosen
  | _ => none

def catalog? : Step → Option Catalog
  | .catalog chosen => some chosen
  | _ => none

/-- The templates that a step lays over the catalog. -/
def overrides : Step → List (String × String)
  | .messages overrides => overrides
  | _ => []

/-- The checks that a step registers, in order. -/
def registrations : Step → List (String × Check)
  | .callback name check => [(name, check)]
  | .callbacks checks => checks.entries
  | _ => []

/-- Steps of different kinds whose order matters: one replaces the catalog over which the other one
lays its templates, or both register a check under one name. -/
def Clash : Step → Step → Prop
  | .catalog _, .messages _ => True
  | .messages _, .catalog _ => True
  | .callback name _, .callbacks checks => name ∈ checks.keys
  | .callbacks checks, .callback name _ => name ∈ checks.keys
  | _, _ => False

variable (step : Step) (builder : Builder)

theorem mode_apply : (step.apply builder).mode = step.mode?.getD builder.mode := by
  cases step <;> rfl

theorem catalog_apply : (step.apply builder).finish.catalog =
    step.catalog?.getD (builder.finish.catalog.extend step.overrides) := by
  cases step <;> rfl

theorem get?_callbacks_apply (name : String) : (step.apply builder).callbacks.get? name =
    (step.registrations.reverse.lookup name).or (builder.callbacks.get? name) := by
  cases step with
  | callback rule check => exact builder.callbacks.get?_insertAll [(rule, check)] name
  | callbacks checks => exact builder.callbacks.get?_insertAll checks.entries name
  | mode chosen => rfl
  | catalog chosen => rfl
  | messages overrides => rfl

end Step

/-! ### Builders that do not differ under some names -/

/-- Builders that will build the same but for the checks under other names. -/
structure AlikeOn (names : Set String) (first second : Builder) : Prop where
  catalog : first.catalog = second.catalog
  mode : first.mode = second.mode
  callbacks : ∀ name ∈ names, first.callbacks.get? name = second.callbacks.get? name

namespace AlikeOn

variable {names : Set String} {first second : Builder}

theorem apply (alike : AlikeOn names first second) (step : Step) :
    AlikeOn names (step.apply first) (step.apply second) where
  catalog := by
    cases step <;> first | rfl | exact alike.catalog | simp only [Step.apply, alike.catalog]
  mode := by rw [Step.mode_apply, Step.mode_apply, alike.mode]
  callbacks name known := by
    rw [Step.get?_callbacks_apply, Step.get?_callbacks_apply, alike.callbacks name known]

theorem foldl (alike : AlikeOn names first second) (steps : List Step) :
    AlikeOn names (steps.foldl Step.apply first) (steps.foldl Step.apply second) := by
  induction steps generalizing first second with
  | nil => exact alike
  | cons step rest ih => exact ih (alike.apply step)

theorem finish (alike : AlikeOn names first second) :
    Validator.AlikeOn names first.finish second.finish where
  catalog := by
    show first.catalog.getD .builtin = second.catalog.getD .builtin
    rw [alike.catalog]
  mode := alike.mode
  resolve name known := by
    have sameCheck : first.finish.callbacks.get? name = second.finish.callbacks.get? name :=
      alike.callbacks name known
    rw [Validator.resolve, Validator.resolve, sameCheck]

end AlikeOn

namespace Step

variable {first second : Step}

/-- Steps that register checks under one name are of the same kind or clash. -/
theorem kind_eq_or_clash {name : String} (inFirst : name ∈ first.registrations.map Prod.fst)
    (inSecond : name ∈ second.registrations.map Prod.fst) :
    first.kind = second.kind ∨ first.Clash second := by
  cases first with
  | callback rule check =>
    obtain rfl : name = rule := List.mem_singleton.1 inFirst
    cases second with
    | callback _ _ => exact .inl rfl
    | callbacks checks => exact .inr inSecond
    | _ => cases inSecond
  | callbacks checks =>
    cases second with
    | callback rule check =>
      obtain rfl : name = rule := List.mem_singleton.1 inSecond
      exact .inr inFirst
    | callbacks _ => exact .inl rfl
    | _ => cases inSecond
  | _ => cases inFirst

end Step

/-- **Steps of different kinds that do not clash may be swapped.** At most one of them has something
to say about a name. -/
theorem alikeOn_apply_swap {names : Set String} {first second : Step}
    (kinds : first.kind ≠ second.kind) (calm : ¬ first.Clash second) (builder : Builder) :
    AlikeOn names (second.apply (first.apply builder)) (first.apply (second.apply builder)) where
  catalog := by
    cases first <;> cases second <;>
      first | rfl | exact (kinds rfl).elim | exact (calm trivial).elim
  mode := by
    cases first <;> cases second <;> first | rfl | exact (kinds rfl).elim
  callbacks name _ := by
    simp only [Step.get?_callbacks_apply]
    by_cases inFirst : name ∈ first.registrations.map Prod.fst
    · have notSecond : name ∉ second.registrations.map Prod.fst := fun inSecond =>
        (Step.kind_eq_or_clash inFirst inSecond).elim kinds calm
      rw [lookup_reverse_eq_none notSecond, Option.none_or, Option.none_or]
    · rw [lookup_reverse_eq_none inFirst, Option.none_or, Option.none_or]

end Builder

/-! ### What all steps write -/

section Build

open Builder

variable (steps : List Builder.Step) (step : Builder.Step)

/-- The steps behind the last one that gives a catalog, all of them if there is none. -/
def sinceCatalog (steps : List Builder.Step) : List Builder.Step :=
  steps.rtakeWhile fun step => step.catalog?.isNone

/-- The check that was registered last under a name. -/
def registered? (steps : List Builder.Step) (name : String) : Option Check :=
  (steps.flatMap Builder.Step.registrations).reverse.lookup name

theorem build_concat :
    build (steps ++ [step]) = (step.apply (steps.foldl Step.apply .empty)).finish := by
  rw [build, List.foldl_concat]

theorem getLast?_filterMap_concat {α : Type} (read : Builder.Step → Option α) :
    ((steps ++ [step]).filterMap read).getLast? =
      (read step).or (steps.filterMap read).getLast? := by
  rw [List.filterMap_append, List.getLast?_append]
  cases found : read step <;> simp [found]

theorem mode_build : (build steps).mode = (steps.filterMap Step.mode?).getLast?.getD .simple := by
  induction steps using List.reverseRecOn with
  | nil => rfl
  | append_singleton steps step ih =>
    rw [build_concat, getLast?_filterMap_concat]
    show (step.apply _).mode = _
    rw [Step.mode_apply]
    cases step.mode? with
    | some chosen => rfl
    | none => exact ih

/-- The catalog is the last one, with the templates of the steps since laid over it in order. -/
theorem catalog_build : (build steps).catalog =
    ((steps.filterMap Step.catalog?).getLast?.getD .builtin).extend
      ((sinceCatalog steps).flatMap Step.overrides) := by
  induction steps using List.reverseRecOn with
  | nil => rfl
  | append_singleton steps step ih =>
    rw [build_concat, getLast?_filterMap_concat, Step.catalog_apply, sinceCatalog,
      List.rtakeWhile_concat]
    cases given : step.catalog? with
    | some chosen => rfl
    | none =>
      show (Builder.finish _).catalog.extend _ = Catalog.extend _ _
      simp only [Option.isNone_none, if_true, List.flatMap_append, Catalog.extend_append,
        List.flatMap_singleton]
      exact congrArg (Catalog.extend · step.overrides) ih

theorem get?_callbacks_build (name : String) :
    (build steps).callbacks.get? name = registered? steps name := by
  induction steps using List.reverseRecOn with
  | nil => rfl
  | append_singleton steps step ih =>
    rw [build_concat]
    show (step.apply _).callbacks.get? name = _
    rw [Step.get?_callbacks_apply, registered?, List.flatMap_append, List.flatMap_singleton,
      List.reverse_append, List.lookup_append]
    exact congrArg (Option.or _) ih

/-- A name stands for the check registered last under it, else for the built-in rule of that
name. -/
theorem resolve_build (name : String) : (build steps).resolve name =
    ((registered? steps name).map .registered).or ((Rule.ofName? name).map .builtin) := by
  rw [resolve, get?_callbacks_build]
  cases registered? steps name <;> rfl

variable {before behind : List Builder.Step}

/-- A check stays registered under its name until another one takes its place. -/
theorem registered?_append_cons {name : String} {check : Check}
    (last : name ∉ (behind.flatMap Step.registrations).map Prod.fst) :
    registered? (before ++ .callback name check :: behind) name = some check := by
  have notSince : (behind.flatMap Step.registrations).reverse.lookup name = none :=
    lookup_reverse_eq_none last
  rw [registered?, List.flatMap_append, List.flatMap_cons, List.reverse_append,
    List.reverse_append, List.lookup_append, List.lookup_append, notSince, Option.none_or]
  simp [Step.registrations]

/-! ### Steps in another order, and steps left out -/

/-- Adjacent steps of different kinds that do not clash may be swapped. -/
theorem alikeOn_build_swap {first second : Builder.Step} (kinds : first.kind ≠ second.kind)
    (calm : ¬ first.Clash second) (before behind : List Builder.Step) :
    AlikeOn Set.univ (build (before ++ first :: second :: behind))
      (build (before ++ second :: first :: behind)) := by
  rw [build, build, List.foldl_append, List.foldl_append]
  exact ((alikeOn_apply_swap kinds calm _).foldl behind).finish

/-- A step that only registers checks matters under their names only. -/
theorem alikeOn_build_without {names : Set String}
    (registers : step.kind = .callback ∨ step.kind = .callbacks)
    (apart : ∀ name ∈ names, name ∉ step.registrations.map Prod.fst)
    (before behind : List Builder.Step) :
    AlikeOn names (build (before ++ step :: behind)) (build (before ++ behind)) := by
  rw [build, build, List.foldl_append, List.foldl_append]
  have alike (builder : Builder) : Builder.AlikeOn names (step.apply builder) builder := by
    have found : ∀ name ∈ names,
        (step.apply builder).callbacks.get? name = builder.callbacks.get? name := by
      intro name known
      rw [Step.get?_callbacks_apply, lookup_reverse_eq_none (apart name known), Option.none_or]
    cases step with
    | callback _ _ => exact ⟨rfl, rfl, found⟩
    | callbacks _ => exact ⟨rfl, rfl, found⟩
    | _ => simp [Step.kind] at registers
  exact ((alike _).foldl behind).finish

/-- **The last step that speaks of something decides it.** So the order of adjacent steps of
different kinds does not matter unless they clash. What is registered under names that a request
does not call does not matter for it, and a registered check takes the place of a built-in one under
its name. -/
theorem last_writer_wins :
    (∀ steps : List Builder.Step,
      (build steps).mode = (steps.filterMap Step.mode?).getLast?.getD .simple ∧
      (build steps).catalog =
        ((steps.filterMap Step.catalog?).getLast?.getD .builtin).extend
          ((sinceCatalog steps).flatMap Step.overrides) ∧
      ∀ name,
        (build steps).resolve name = ((registered? steps name).map .registered).or
          ((Rule.ofName? name).map .builtin) ∧
        ((build steps).hasRule name = true ↔ (build steps).resolve name ≠ none)) ∧
    (∀ (before behind : List Builder.Step) (first second : Builder.Step),
      first.kind ≠ second.kind → ¬ first.Clash second →
      AlikeOn Set.univ (build (before ++ first :: second :: behind))
        (build (before ++ second :: first :: behind))) ∧
    (∀ (first second : Validator) (request : Request),
      AlikeOn request.called first second → first.make request = second.make request) ∧
    (∀ (before behind : List Builder.Step) (step : Builder.Step) (request : Request),
      (step.kind = .callback ∨ step.kind = .callbacks) →
      (∀ name ∈ request.called, name ∉ step.registrations.map Prod.fst) →
      (build (before ++ step :: behind)).make request =
        (build (before ++ behind)).make request) ∧
    (∀ (before behind : List Builder.Step) (name : String) (check : Check),
      name ∉ (behind.flatMap Step.registrations).map Prod.fst →
      ∀ (request : Request) (field : String) (call : Call),
        let validator := build (before ++ .callback name check :: behind)
        validator.runCall request field call =
          if call.name = name then check (validator.inputFor request field call (.registered check))
          else (build (before ++ behind)).runCall request field call) := by
  refine ⟨fun steps => ⟨mode_build steps, catalog_build steps, fun name =>
      ⟨resolve_build steps name, ?_⟩⟩, fun before behind first second kinds calm =>
    alikeOn_build_swap kinds calm before behind, fun first second request alike => alike.make_eq,
    fun before behind step request registers apart =>
      (alikeOn_build_without step registers apart before behind).make_eq,
    fun before behind name check last request field call => ?_⟩
  · rw [hasRule, Option.isSome_iff_ne_none]
  · show runCall _ _ _ _ = _
    by_cases asked : call.name = name
    · rw [if_pos asked, runCall, resolve_build, asked, registered?_append_cons last]
      rfl
    · rw [if_neg asked]
      have others : AlikeOn {other | other ≠ name}
          (build (before ++ .callback name check :: behind)) (build (before ++ behind)) :=
        alikeOn_build_without _ (.inl rfl) (by simp [Step.registrations]) before behind
      exact others.runCall_eq asked field

/-- A check and a table with a check under the same name do not commute: the later one is run. -/
theorem callback_and_callbacks_do_not_commute :
    let passes : Check := fun _ => .ok none
    let fails : Check := fun input => .ok (some input.fail)
    let single : Builder.Step := .callback "even" passes
    let table : Builder.Step := .callbacks (.ofList [("even", fails)])
    let request := Request.build [.rule "age" "even"]
    single.kind = .callback ∧ table.kind = .callbacks ∧
    ((build [single, table]).make request).map (·.failures.map Failure.rule) = .ok ["even"] ∧
    ((build [table, single]).make request).map (·.failures.map Failure.rule) = .ok [] ∧
    ¬ AlikeOn Set.univ (build [single, table]) (build [table, single]) := by
  intro passes fails single table request
  refine ⟨rfl, rfl, rfl, rfl, fun alike => ?_⟩
  have same : (build [single, table]).make request = (build [table, single]).make request :=
    AlikeOn.make_eq ⟨alike.catalog, alike.mode, fun name _ => alike.resolve name trivial⟩
  have rules := congrArg (Except.map (·.failures.map Failure.rule)) same
  cases rules

/-- A registered check takes the place of `required`, before or behind the messages, and a check
under a name that is not called is not noticed. -/
theorem last_writer_wins_replaced :
    let passes : Check := fun _ => .ok none
    let replaced : Builder.Step := .callback "required" passes
    let unused : Builder.Step := .callback "even" passes
    let messages : Builder.Step := .messages [("required", "!")]
    let request := Request.build [.rule "age" "required"]
    (replaced.kind ≠ messages.kind ∧ ¬ replaced.Clash messages ∧
      AlikeOn Set.univ (build [replaced, messages]) (build [messages, replaced])) ∧
    (AlikeOn request.called (build [replaced, messages]) (build [messages, replaced]) ∧
      (build [replaced, messages]).make request = (build [messages, replaced]).make request) ∧
    ((unused.kind = .callback ∨ unused.kind = .callbacks) ∧
      (∀ name ∈ request.called, name ∉ unused.registrations.map Prod.fst) ∧
      (build [replaced, unused, messages]).make request =
        (build [replaced, messages]).make request) ∧
    "required" ∉ ([messages].flatMap Step.registrations).map Prod.fst ∧
    (build [replaced, messages]).runCall request "age" ⟨"required", none⟩ = .ok none := by
  intro passes replaced unused messages request
  obtain ⟨_, swap, congr, without, replace⟩ := last_writer_wins
  have calm : replaced.kind ≠ messages.kind ∧ ¬ replaced.Clash messages := ⟨by decide, id⟩
  have swapped := swap [] [] replaced messages calm.1 calm.2
  have alike : AlikeOn request.called (build [replaced, messages]) (build [messages, replaced]) :=
    ⟨swapped.catalog, swapped.mode, fun name _ => swapped.resolve name trivial⟩
  have apart : ∀ name ∈ request.called, name ∉ unused.registrations.map Prod.fst := by
    rintro name ⟨entry, member, calls, parsed, call, inCalls, rfl⟩
    have onlyEntry : entry = ("age", "required") := List.mem_singleton.1 member
    subst onlyEntry
    have onlyCalls : calls = [⟨"required", none⟩] := (Except.ok.inj parsed).symm
    subst onlyCalls
    rw [List.mem_singleton.1 inCalls]
    decide
  have notSince : "required" ∉ ([messages].flatMap Step.registrations).map Prod.fst := by decide
  refine ⟨⟨calm.1, calm.2, swapped⟩, ⟨alike, congr _ _ request alike⟩,
    ⟨.inl rfl, apart, without [replaced] [messages] unused request (.inl rfl) apart⟩, notSince, ?_⟩
  exact replace [] [messages] "required" passes notSince request "age" ⟨"required", none⟩

end Build

end Validator

end FormRules
