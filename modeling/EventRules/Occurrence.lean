import EventRules.Log
import EventRules.Remote.Basic

/-!
# Occurrence — what can be seen of a run

The log entries, the calls to the remote service, the signals to the host and what is printed, in the
order in which they happen.
-/

namespace EventRules

/-- How an event was worked off. -/
inductive Completion where
  | succeeded
  /-- At least one rule failed; the log says which. -/
  | failed
  deriving DecidableEq

inductive Occurrence where
  | logged (entry : LogEntry)
  | begun (call : Call)
  | ended (call : Call) (succeeded : Bool)
  | signalled (completion : Completion)
  | printed (text : String)
  deriving DecidableEq

namespace Occurrence

def entry? : Occurrence → Option LogEntry
  | .logged entry => some entry
  | _ => none

def begun? : Occurrence → Option Call
  | .begun call => some call
  | _ => none

def completion? : Occurrence → Option Completion
  | .signalled completion => some completion
  | _ => none

end Occurrence

end EventRules
