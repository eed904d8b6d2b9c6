import EventRules.Rule.Basic
import EventRules.Yaml.Reader

/-!
# Table — two ordered lists of rules

Action rules look at actions that were created, property rules at batches of changed properties.

* `Table.ofText` — the table that a document describes;
* `Table.embedded` — the table that is used when no other is given.
-/

namespace EventRules

structure Table where
  actionRules : List ActionRule
  propertyRules : List PropertyRule
  deriving DecidableEq

/-- Why there is no table. -/
inductive TableFault where
  /-- The document cannot be read from where it is kept. -/
  | unreadable (problem : String)
  | malformed (fault : Yaml.Fault)
  /-- The table of the process is fixed already. -/
  | alreadyInstalled
  deriving DecidableEq

/-- The problem of a document that is not there. -/
def TableFault.missingFile : String := "No such file or directory (os error 2)"

def TableFault.message : TableFault → String
  | .unreadable problem => "IO error: " ++ problem
  | .malformed fault => "YAML parse error: " ++ fault.message
  | .alreadyInstalled => "Rule table is already installed"

/-- What is behind a fault, from the outside to the inside. -/
def TableFault.causes : TableFault → List String
  | .unreadable problem => [problem]
  | .malformed fault => [fault.message]
  | .alreadyInstalled => []

namespace Table

def empty : Table := ⟨[], []⟩

def size (table : Table) : Nat := table.actionRules.length + table.propertyRules.length

def isEmpty (table : Table) : Bool := table.actionRules.isEmpty && table.propertyRules.isEmpty

/-! ## Reading -/

/-- The lists of a table that have been read. -/
structure Draft where
  actionRules : Option (List ActionRule)
  propertyRules : Option (List PropertyRule)

def record {m : Type → Type} [RuleSource m] : Record m Draft Table where
  description := "struct RuleTableDocument"
  start := ⟨none, none⟩
  fields := [
    { names := ["action_rules"]
      read := fun draft => do
        return { draft with actionRules := some (← RuleSource.list Rule.read) }
      isSet := fun draft => draft.actionRules.isSome
      optional := true },
    { names := ["property_rules"]
      read := fun draft => do
        return { draft with propertyRules := some (← RuleSource.list Rule.read) }
      isSet := fun draft => draft.propertyRules.isSome
      optional := true }]
  others := .ignored
  finish := fun draft => .ok ⟨draft.actionRules.getD [], draft.propertyRules.getD []⟩

def read {m : Type → Type} [RuleSource m] : m Table := Source.record record

def ofText (document : String) : Except TableFault Table :=
  match Yaml.decode read document with
  | .ok table => .ok table
  | .error fault => .error (.malformed fault)

/-! ## The embedded table -/

/-- An update of one property as the output of a rule. -/
def flag (key : String) : OutputTemplate :=
  .ofJson (.object [("key", .string key), ("value", .bool true)])

def leftWarehouse : ActionRule := .of "left-warehouse" ⟨"_LeftWarehouse"⟩ (flag "in_transit")

def scanActivates : ActionRule := .of "scan-activates" ⟨"scans"⟩ (flag "active")

def overheating : PropertyRule :=
  .of "overheating" ⟨"temperature_celsius", .gte, .ofNat 100⟩ (flag "overheating")

def forecastAlert : PropertyRule :=
  .of "forecast-alert" ⟨"weather_report", .includes, .string "rain"⟩
    (.ofJson (.object [
      ("customFields", .object [("conditions", .string "\x7b\x7b value \x7d\x7d")]),
      ("type", .string "_ForecastAlert")]))

def embedded : Table := ⟨[leftWarehouse, scanActivates], [overheating, forecastAlert]⟩

end Table

end EventRules
