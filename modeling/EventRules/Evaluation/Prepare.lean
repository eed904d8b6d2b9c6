import EventRules.Event.Encode
import EventRules.Rule.Report

/-!
# Prepare — from an event to the calls it leads to

Each rule of the event's kind is looked at by itself: it is validated, its condition is tested, the
entity that receives its output is found, and its output is rendered.  The result is a call, nothing,
or a fault.

* `ActionRule.prepare`, `PropertyRule.prepare` — one rule;
* `Table.prepare` — all rules for an event, in the order of the table.
-/

namespace EventRules

namespace Rule

variable {κ : Type} [Condition κ]

/-- The payload of a rule that fired, in the context of its event. -/
def produce (rule : Rule κ) (output : OutputTemplate) (context : Json) : Except RuleFault Payload :=
  match output.render context with
  | .ok payload => .ok payload
  | .error (.unclassifiable problem) => .error (.unclassifiable problem)
  | .error fault => .error (.invalid rule.toJson (.unrendered fault))

end Rule

/-! ## One rule -/

/-- What the output of an action rule can refer to. -/
def actionContext (action : Action) (target : String) : Json :=
  .ofEntries [("action", action.toJson.canonical), ("thng", .string target)]

/-- What the output of a property rule can refer to. -/
def propertyContext (key : String) (value : Json) (thng : String) : Json :=
  .ofEntries [("key", .string key), ("value", value), ("thng", .string thng)]

def ActionRule.prepare (rule : ActionRule) (action : Action) : Except RuleFault (Option Call) := do
  let (condition, output) ← rule.validate
  if condition.holds action then
    match action.target? with
    | none => throw (.missingTarget rule.name)
    | some target =>
        let payload ← rule.produce output (actionContext action target)
        return some ⟨target, payload⟩
  else return none

/-- The first change, in the order of the sender, that satisfies a condition. -/
def PropertyCondition.firstMatch? (condition : PropertyCondition) (changes : Batch) :
    Option (String × Change) :=
  changes.entries.find? fun (key, change) => condition.holds key change.newValue

def PropertyRule.prepare (rule : PropertyRule) (event : PropertyChangeEvent) :
    Except RuleFault (Option Call) := do
  let (condition, output) ← rule.validate
  match condition.firstMatch? event.changes with
  | none => return none
  | some (key, change) =>
      let payload ← rule.produce output (propertyContext key change.newValue event.thng)
      return some ⟨event.thng, payload⟩

/-! ## All rules -/

/-- A rule by its name, and what it has prepared for an event. -/
structure Prepared where
  rule : String
  result : Except RuleFault (Option Call)

def Table.prepare (table : Table) : HostEvent → List Prepared
  | .actionCreated event =>
      table.actionRules.map fun rule => ⟨rule.name, ActionRule.prepare rule event.action⟩
  | .thngPropertiesChanged event =>
      table.propertyRules.map fun rule => ⟨rule.name, PropertyRule.prepare rule event⟩

end EventRules
