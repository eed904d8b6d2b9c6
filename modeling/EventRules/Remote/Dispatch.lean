import EventRules.Occurrence
import EventRules.Remote.Api

/-!
# Dispatch — sending one payload

A value is classified and, if it is a payload, sent in one call.  The log says how the call ended.

* `Api.opening`, `Ending.closing` — what can be seen when a call begins and when it ends;
* `Api.dispatch` — one call from its beginning to its end;
* `Api.dispatchValue` — the same for a value that has not been classified.
-/

namespace EventRules

/-! ## Parts of a call -/

/-- What can be seen when a call begins. -/
def Conduct.opening (conduct : Conduct) (call : Call) : List Occurrence :=
  .begun call :: conduct.entries.map .logged

def dispatchFields (api : String) (call : Call) : List LogField := [
  .quoted "thng" call.target,
  .quoted "kind" call.payload.kind,
  .quoted "api" api]

/-- What can be seen when a call ends; a call that breaks down leaves no trace. -/
def Ending.closing (api : String) (call : Call) : Ending → List Occurrence
  | .answered _ => [
      .ended call true,
      .logged {
        level := .debug
        source := .dispatch
        message := "payload dispatched"
        fields := dispatchFields api call }]
  | .failed fault => [
      .ended call false,
      .logged {
        level := .warn
        source := .dispatch
        message := "payload dispatch failed"
        fields := dispatchFields api call ++ [.plain "error" fault.message] }]
  | .panicked _ => []

/-! ## One call -/

inductive Outcome where
  | answered (value : Json)
  | failed (fault : DispatchFault)
  | panicked (text : Option String)
  | hung
  deriving DecidableEq

def Outcome.ofEnding : Ending → Outcome
  | .answered value => .answered value
  | .failed fault => .failed (.remote fault)
  | .panicked text => .panicked text

/-- A call that was made, and the state that it left behind. -/
structure Dispatched (σ : Type) where
  outcome : Outcome
  occurrences : List Occurrence
  state : σ

namespace Api

variable {σ : Type}

/-- The service as one that payloads are sent through. -/
def describe (api : Api σ) : String :=
  "OutputDispatcher \x7b api: " ++ Text.quoted api.name ++ " \x7d"

/-- Makes a call and waits for it, at most so many rounds. -/
def dispatch (api : Api σ) (rounds : Nat) (call : Call) (state : σ) : Dispatched σ :=
  let (conduct, state) := api.call call state
  let opening := conduct.opening call
  match conduct.ending with
  | none => ⟨.hung, opening, state⟩
  | some ending =>
      if conduct.suspensions < rounds then
        ⟨.ofEnding ending, opening ++ ending.closing api.name call, state⟩
      else ⟨.hung, opening, state⟩

/-- Classifies a value and sends it; what is no payload leads to no call. -/
def dispatchValue (api : Api σ) (rounds : Nat) (target : String) (value : Json) (state : σ) :
    Dispatched σ :=
  match Payload.classify value with
  | .ok payload => api.dispatch rounds ⟨target, payload⟩ state
  | .error problem => ⟨.failed (.unclassifiable problem), [], state⟩

end Api

end EventRules
