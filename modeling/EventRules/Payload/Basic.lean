import EventRules.Json.Printer

/-!
# Payload — what a rule puts out

A payload is an action to create or an update of one property.

* `Payload.entries` — its fields in the order of their declaration, absent ones left out;
* `Payload.toJson` — the same as a value in canonical form.
-/

namespace EventRules

structure ActionPayload where
  type : String
  thngId : Option String
  customFields : Option (Fields Json)
  extra : Fields Json
  deriving DecidableEq

structure PropertyPayload where
  key : String
  value : Json
  deriving DecidableEq

inductive Payload where
  | action (payload : ActionPayload)
  | property (payload : PropertyPayload)
  deriving DecidableEq

def ActionPayload.entries (payload : ActionPayload) : List (String × Json) :=
  [("type", .string payload.type)] ++
  (payload.thngId.map fun name => ("thngId", Json.string name)).toList ++
  (payload.customFields.map fun fields => ("customFields", Json.object fields)).toList ++
  payload.extra

def PropertyPayload.entries (payload : PropertyPayload) : List (String × Json) :=
  [("key", .string payload.key), ("value", payload.value)]

namespace Payload

def kind : Payload → String
  | .action _ => "action"
  | .property _ => "property"

def entries : Payload → List (String × Json)
  | .action payload => payload.entries
  | .property payload => payload.entries

/-- The payload as it is written. -/
def written (payload : Payload) : Json := .object payload.entries

def toJson (payload : Payload) : Json := .ofEntries payload.entries

end Payload

end EventRules
