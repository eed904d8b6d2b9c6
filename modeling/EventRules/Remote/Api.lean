import EventRules.Log
import EventRules.Remote.Basic

/-!
# Api — a remote service as calls see it

A call suspends some number of times and then ends, or never ends.  What a call does is settled when
it begins, and may depend on what the calls before it left behind.

* `Ending`, `Conduct` — what becomes of one call;
* `Api` — a service, given what it does on each call.
-/

namespace EventRules

inductive Ending where
  | answered (value : Json)
  | failed (fault : RemoteFault)
  /-- The call breaks down, perhaps with a text that says why. -/
  | panicked (text : Option String)
  deriving DecidableEq

structure Conduct where
  /-- What is logged as the call begins. -/
  entries : List LogEntry
  suspensions : Nat
  /-- How the call ends, if it does. -/
  ending : Option Ending
  deriving DecidableEq

namespace Conduct

/-- A call that ends at once. -/
def immediate (ending : Ending) : Conduct := ⟨[], 0, some ending⟩

end Conduct

/-- A service with the state `σ` that calls leave behind. -/
structure Api (σ : Type) where
  name : String
  call : Call → σ → Conduct × σ

namespace Api

/-- A service that treats equal calls alike. -/
def stateless {σ : Type} (name : String) (conduct : Call → Conduct) : Api σ :=
  ⟨name, fun call state => (conduct call, state)⟩

end Api

end EventRules
