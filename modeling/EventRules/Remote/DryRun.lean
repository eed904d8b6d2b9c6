import EventRules.Remote.Api

/-!
# DryRun — calls that are only logged

Nothing is sent.  The log says what would have been, and the answer is the body that would have been
sent.
-/

namespace EventRules
namespace DryRun

/-- An update of one property is sent as a list of one. -/
def propertyBody (payload : PropertyPayload) : Json := .array [.object payload.entries]

/-- What is sent, as a value. -/
def body (payload : Payload) : Json :=
  match payload with
  | .action _ => payload.toJson
  | .property property => propertyBody property

def entry (call : Call) : LogEntry where
  level := .info
  source := .dryRun
  message := "dry-run: " ++ call.operation.name
  fields := LogField.quoted "thng" call.target ::
    match call.payload with
    | .action action => [
        .plain "action_type" action.type,
        .plain "body" (body call.payload).compact]
    | .property property => [
        .plain "key" property.key,
        .plain "value" property.value.compact]

def api {σ : Type} : Api σ :=
  .stateless "dry-run" fun call => ⟨[entry call], 0, some (.answered (body call.payload))⟩

end DryRun
end EventRules
