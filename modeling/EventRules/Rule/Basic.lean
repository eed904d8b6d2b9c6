import EventRules.Rule.Condition
import EventRules.Template.Output

/-!
# Rule — a condition and the output it leads to

Both parts may be missing: such a rule can be loaded, and fails whenever it is evaluated.

* `Rule.toJson` — the written form, without the parts that are missing;
* `Rule.read` — a rule from any form of rule documents.
-/

namespace EventRules

/-- Conditions as parts of rule documents. -/
class Condition (κ : Type) where
  toJson : κ → Json
  read {m : Type → Type} [RuleSource m] : m κ

instance : Condition ActionCondition where
  toJson := ActionCondition.toJson
  read := ActionCondition.read

instance : Condition PropertyCondition where
  toJson := PropertyCondition.toJson
  read := PropertyCondition.read

structure Rule (κ : Type) where
  name : String
  condition : Option κ
  output : Option OutputTemplate
  deriving DecidableEq

abbrev ActionRule := Rule ActionCondition

abbrev PropertyRule := Rule PropertyCondition

namespace Rule

variable {κ : Type}

def of (name : String) (condition : κ) (output : OutputTemplate) : Rule κ :=
  ⟨name, some condition, some output⟩

variable [Condition κ]

def toJson (rule : Rule κ) : Json :=
  .object <|
    [("name", .string rule.name)] ++
    (rule.condition.map fun condition => ("when", Condition.toJson condition)).toList ++
    (rule.output.map fun output => ("create", output.tree.value)).toList

/-! ## Reading -/

/-- The fields of a rule that have been read. -/
structure Draft (κ : Type) where
  name : Option String
  condition : Option (Option κ)
  output : Option (Option OutputTemplate)

def record {m : Type → Type} [RuleSource m] : Record m (Draft κ) (Rule κ) where
  description := "struct Rule"
  start := ⟨none, none, none⟩
  fields := [
    { names := ["name"]
      read := fun draft => do return { draft with name := some (← Source.text) }
      isSet := fun draft => draft.name.isSome
      optional := false },
    { names := ["when"]
      read := fun draft => do
        return { draft with condition := some (← Source.optional Condition.read) }
      isSet := fun draft => draft.condition.isSome
      optional := false },
    { names := ["create"]
      read := fun draft => do
        return { draft with
          output := some (← Source.optional (OutputTemplate.ofJson <$> Source.json)) }
      isSet := fun draft => draft.output.isSome
      optional := false }]
  others := .ignored
  finish := fun draft => do
    let name ← Record.required "name" draft.name
    return ⟨name, draft.condition.join, draft.output.join⟩

def read {m : Type → Type} [RuleSource m] : m (Rule κ) := Source.record record

end Rule

end EventRules
