import EventRules.Payload.Classify

/-!
# Remote — calls to the service that holds the entities

Rules need two operations of the service: an action is created, or one property of an entity is
updated.  A call names the entity and carries the payload; the payload decides the operation.

* `Call` — one call, `Call.operation` — what it asks for;
* `RemoteFault` — why a call failed;
* `DispatchFault` — why a value could not be sent, which includes that it is no payload.
-/

namespace EventRules

inductive Operation where
  | createAction
  | updateProperty
  deriving DecidableEq

def Operation.name : Operation → String
  | .createAction => "create action"
  | .updateProperty => "update property"

structure Call where
  target : String
  payload : Payload
  deriving DecidableEq

def Call.operation (call : Call) : Operation :=
  match call.payload with
  | .action _ => .createAction
  | .property _ => .updateProperty

/-! ## Faults -/

inductive RemoteFault where
  /-- No answer came; the causes lead from the problem to what is behind it. -/
  | transport (problem : String) (causes : List String)
  /-- An answer came that is no success. -/
  | status (operation : Operation) (code : Nat) (body : String)
  | configuration (problem : String)
  | serialization (problem : String)
  | other (problem : String)
  deriving DecidableEq

def RemoteFault.message : RemoteFault → String
  | .transport problem _ => "HTTP request failed: " ++ problem
  | .status operation code body => operation.name ++ " returned " ++ toString code ++ ": " ++ body
  | .configuration problem => "Configuration error: " ++ problem
  | .serialization problem => "Serialization error: " ++ problem
  | .other problem => problem

/-- What is behind a fault, from the outside to the inside. -/
def RemoteFault.causes : RemoteFault → List String
  | .transport problem causes => problem :: causes
  | _ => []

inductive DispatchFault where
  | unclassifiable (problem : Unclassifiable)
  | remote (fault : RemoteFault)
  deriving DecidableEq

def DispatchFault.message : DispatchFault → String
  | .unclassifiable problem => problem.message
  | .remote fault => "Remote operation failed: " ++ fault.message

def DispatchFault.causes : DispatchFault → List String
  | .unclassifiable _ => []
  | .remote fault => fault.message :: fault.causes

end EventRules
