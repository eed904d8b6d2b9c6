import EventRules.Remote.Api

/-!
# Scripted — a service that follows a script

Each line of the script is about one subject: the type of an action or the key of a property.  The
first line about the subject of a call says what becomes of it; without one the call succeeds.
-/

namespace EventRules

structure ScriptLine where
  subject : String
  suspensions : Nat
  /-- How the call ends, if it does, given its operation. -/
  ending : Operation → Option Ending

/-- What a call is about. -/
def Call.subject (call : Call) : String :=
  match call.payload with
  | .action payload => payload.type
  | .property payload => payload.key

namespace Scripted

/-- The answer of a call that succeeds. -/
def done (subject : String) : Ending := .answered (.string ("done " ++ subject))

def conduct (script : List ScriptLine) (call : Call) : Conduct :=
  match script.find? fun line => line.subject == call.subject with
  | some line => ⟨[], line.suspensions, line.ending call.operation⟩
  | none => .immediate (done call.subject)

def api {σ : Type} (script : List ScriptLine) : Api σ := .stateless "scripted" (conduct script)

end Scripted
end EventRules
