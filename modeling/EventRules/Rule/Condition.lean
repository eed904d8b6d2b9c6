import EventRules.Event.Basic
import EventRules.Rule.Operator

/-!
# Condition — when a rule fires

An action condition names one type of action.  A property condition has a key, or the beginning of a
key followed by `*`, and compares the new value of a property with that key.
-/

namespace EventRules

structure ActionCondition where
  actionType : String
  deriving DecidableEq

structure PropertyCondition where
  key : String
  op : Operator
  value : Json
  deriving DecidableEq

/-- Whether a key fits a pattern; a pattern that ends in `*` fits the keys that begin as it does. -/
def keyFits (pattern key : List Char) : Bool :=
  if pattern.getLast? = some '*' then pattern.dropLast.isPrefixOf key else key == pattern

namespace ActionCondition

def holds (condition : ActionCondition) (action : Action) : Bool :=
  action.type == condition.actionType

def toJson (condition : ActionCondition) : Json :=
  .object [("action_type", .string condition.actionType)]

def read {m : Type → Type} [Source m] : m ActionCondition :=
  Source.record {
    description := "struct ActionCondition"
    start := none
    fields := [
      { names := ["action_type", "type"]
        read := fun _ => some <$> Source.text
        isSet := Option.isSome
        optional := false }]
    others := .ignored
    finish := fun type => ActionCondition.mk <$> Record.required "action_type" type }

end ActionCondition

namespace PropertyCondition

def keyHolds (condition : PropertyCondition) (key : String) : Bool :=
  keyFits condition.key.toList key.toList

def holds (condition : PropertyCondition) (key : String) (value : Json) : Bool :=
  condition.keyHolds key && condition.op.holds value condition.value

def toJson (condition : PropertyCondition) : Json :=
  .object [
    ("key", .string condition.key),
    ("op", .string condition.op.name),
    ("value", condition.value)]

/-- The fields of a property condition that have been read. -/
structure Draft where
  key : Option String
  op : Option Operator
  value : Option Json

def record {m : Type → Type} [RuleSource m] : Record m Draft PropertyCondition where
  description := "struct PropertyCondition"
  start := ⟨none, none, none⟩
  fields := [
    { names := ["key"]
      read := fun draft => do return { draft with key := some (← Source.text) }
      isSet := fun draft => draft.key.isSome
      optional := false },
    { names := ["op"]
      read := fun draft => do return { draft with op := some (← Operator.read) }
      isSet := fun draft => draft.op.isSome
      optional := false },
    { names := ["value"]
      read := fun draft => do return { draft with value := some (← Source.json) }
      isSet := fun draft => draft.value.isSome
      optional := false }]
  others := .ignored
  finish := fun draft => do
    let key ← Record.required "key" draft.key
    let op ← Record.required "op" draft.op
    let value ← Record.required "value" draft.value
    return ⟨key, op, value⟩

def read {m : Type → Type} [RuleSource m] : m PropertyCondition := Source.record record

end PropertyCondition

end EventRules
