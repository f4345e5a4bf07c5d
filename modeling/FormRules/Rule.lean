/-
**Built-in rules.**

The rules that are always known, with the names that rule strings use for them and the messages
they have unless a catalog says otherwise.

* `Rule.all` lists the rules in catalog order, each of them once (`Rule.mem_all`,
  `Rule.nodup_all`);
* `Rule.ofName?_name`: a name is looked up to its rule, and `Rule.ofName?_ne_none_iff`: other names
  are not looked up.
-/

namespace FormRules

/-- A built-in rule. -/
inductive Rule where
  | required
  | natural
  | naturalPositive
  | numeric
  | minNumber
  | maxNumber
  | str
  | minLength
  | maxLength
  | validEmail
deriving DecidableEq

namespace Rule

/-- Every built-in rule, in catalog order. -/
def all : List Rule :=
  [required, natural, naturalPositive, numeric, minNumber, maxNumber, str, minLength, maxLength,
   validEmail]

/-- The name of a rule in rule strings. -/
def name : Rule → String
  | required => "required"
  | natural => "natural"
  | naturalPositive => "naturalPositive"
  | numeric => "numeric"
  | minNumber => "minNumber"
  | maxNumber => "maxNumber"
  | str => "str"
  | minLength => "minLength"
  | maxLength => "maxLength"
  | validEmail => "validEmail"

/-- The rule with a name. -/
def ofName? (name : String) : Option Rule :=
  all.find? fun rule => rule.name = name

/-- Whether a rule needs a parameter. -/
def takesParameter : Rule → Bool
  | minNumber | maxNumber | minLength | maxLength => true
  | _ => false

/-- The message of a rule unless a catalog says otherwise. -/
def defaultTemplate : Rule → String
  | required => "The #fieldLabel# is required!"
  | natural => "The #fieldLabel# must be a natural integer!"
  | naturalPositive => "The #fieldLabel# must be a positive integer!"
  | numeric => "The #fieldLabel# must be a number!"
  | minNumber => "The #fieldLabel# must be minimum #fieldSize#!"
  | maxNumber => "The #fieldLabel# must be maximum #fieldSize#!"
  | str => "The #fieldLabel# must be a string!"
  | minLength => "The #fieldLabel# must be at least #fieldSize# characters!"
  | maxLength => "The #fieldLabel# must be maximum #fieldSize# characters!"
  | validEmail => "The #fieldLabel# must be a valid email!"

/-! ### The list of rules -/

/-- Every rule is listed. -/
theorem mem_all (rule : Rule) : rule ∈ all := by
  cases rule <;> decide

/-- No rule is listed twice. -/
theorem nodup_all : all.Nodup := by
  decide

/-- A name is looked up to its rule. -/
@[simp]
theorem ofName?_name (rule : Rule) : ofName? rule.name = some rule := by
  cases rule <;> decide

/-- Different rules have different names. -/
theorem name_injective {first second : Rule} (same : first.name = second.name) :
    first = second := by
  have found := ofName?_name first
  rw [same, ofName?_name] at found
  exact (Option.some.inj found).symm

/-- A rule that is looked up has the name it was looked up by. -/
theorem name_of_ofName? {name : String} {rule : Rule} (found : ofName? name = some rule) :
    rule.name = name := by
  simpa using List.find?_some found

/-- A name is looked up exactly if it is the name of a rule. -/
theorem ofName?_ne_none_iff {name : String} :
    ofName? name ≠ none ↔ ∃ rule : Rule, rule.name = name := by
  constructor
  · intro found
    obtain ⟨rule, found⟩ := Option.ne_none_iff_exists'.1 found
    exact ⟨rule, name_of_ofName? found⟩
  · rintro ⟨rule, rfl⟩
    rw [ofName?_name]
    exact Option.some_ne_none rule

end Rule

end FormRules
