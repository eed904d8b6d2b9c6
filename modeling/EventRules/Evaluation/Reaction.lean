import EventRules.Evaluation.Rounds

/-!
# Reaction — working off one event

The rules of a table are evaluated for an event, failures are logged, and the host is told how it went.
The host is told exactly once, unless the evaluation never ends, and never learns why a rule failed.

* `Table.evaluate` — the evaluation of an event;
* `Table.react` — the evaluation, with what is logged about it and the signal to the host.
-/

namespace EventRules

/-! ## Log entries -/

def evaluationEntry (event : String) (failures : List Failure) : LogEntry where
  level := .error
  source := .reaction
  message := "rule evaluation failed"
  fields := [.quoted "event" event, .plain "error" (Failure.summary failures)]

def failureEntry (event : String) (failure : Failure) : LogEntry where
  level := .error
  source := .reaction
  message := "rule branch failed"
  fields := [
    .quoted "event" event,
    .plain "rule" failure.rule,
    .quoted "kind" failure.fault.kind,
    .plain "error" failure.fault.message]

def breakdownEntry (event text : String) : LogEntry where
  level := .error
  source := .reaction
  message := "rule evaluation panicked"
  fields := [.quoted "event" event, .plain "panic" text]

/-! ## Events -/

namespace Verdict

/-- How the host is told of an evaluation, if it ends. -/
def completion? : Verdict → Option Completion
  | .settled [] => some .succeeded
  | .settled (_ :: _) => some .failed
  | .unwound _ => some .failed
  | .hung => none

/-- What is logged about an evaluation. -/
def entries (event : String) : Verdict → List LogEntry
  | .settled [] => []
  | .settled (first :: rest) =>
      evaluationEntry event (first :: rest) :: (first :: rest).map (failureEntry event)
  | .unwound text => [breakdownEntry event text]
  | .hung => []

end Verdict

variable {σ : Type}

/-- An evaluation with what is logged about it and the signal to the host. -/
def Evaluation.completed (event : HostEvent) (evaluation : Evaluation σ) : Evaluation σ :=
  { evaluation with
    occurrences :=
      evaluation.occurrences ++
      (evaluation.verdict.entries event.name).map .logged ++
      evaluation.verdict.completion?.toList.map .signalled }

namespace Table

def evaluate (table : Table) (api : Api σ) (sink : LogSink) (patience : Patience)
    (event : HostEvent) (state : σ) : Evaluation σ :=
  EventRules.evaluate api sink patience (table.prepare event) state

/-- The evaluation of an event with all that follows from it. -/
def react (table : Table) (api : Api σ) (sink : LogSink) (patience : Patience)
    (event : HostEvent) (state : σ) : Evaluation σ :=
  (table.evaluate api sink patience event state).completed event

end Table

end EventRules
