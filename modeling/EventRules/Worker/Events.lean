import EventRules.Evaluation.Reaction
import EventRules.Event.Decode
import EventRules.Text.Basic

/-!
# Events — working off a text of events

Each line of the text holds one event, unless it is blank.  A line that holds none is skipped with a
warning.  A line is looked at only after the event before it has been worked off.

* `textLines` — the lines of a text;
* `Worker.workOff` — one line;
* `Worker.workOffAll` — one line after the other.
-/

namespace EventRules

/-! ## Lines -/

/-- The lines of a text without their ends. -/
def lineChars : List Char → List (List Char)
  | [] => []
  | '\n' :: rest => [] :: lineChars rest
  | '\r' :: '\n' :: rest => [] :: lineChars rest
  | c :: rest =>
      match lineChars rest with
      | [] => [[c]]
      | line :: others => (c :: line) :: others

def textLines (text : String) : List String := (lineChars text.toList).map String.ofList

namespace Worker

/-! ## Counts -/

/-- How many lines came to which end. -/
structure Tally where
  succeeded : Nat
  failed : Nat
  skipped : Nat
  deriving DecidableEq

namespace Tally

def zero : Tally := ⟨0, 0, 0⟩

def add (a b : Tally) : Tally :=
  ⟨a.succeeded + b.succeeded, a.failed + b.failed, a.skipped + b.skipped⟩

/-- One event, by what the host was told about it. -/
def ofCompletion : Option Completion → Tally
  | some .succeeded => ⟨1, 0, 0⟩
  | some .failed => ⟨0, 1, 0⟩
  | none => zero

def oneSkipped : Tally := ⟨0, 0, 1⟩

end Tally

/-! ## Lines of events -/

/-- What was done about some lines. -/
structure Progress (σ : Type) where
  tally : Tally
  occurrences : List Occurrence
  state : σ
  /-- Whether the last event is never worked off. -/
  isStuck : Bool

variable {σ : Type}

def isBlankLine (line : String) : Bool := (Text.trimChars line.toList).isEmpty

def skippedEntry (number : Nat) (fault : Json.Fault) : LogEntry where
  level := .warn
  source := .worker
  message := "skipping undecodable event"
  fields := [.count "line" number, .plain "error" fault.message]

/-- What is done about the line with a given number. -/
def workOff (table : Table) (api : Api σ) (number : Nat) (line : String) (state : σ) : Progress σ :=
  if isBlankLine line then ⟨.zero, [], state, false⟩
  else
    match HostEvent.ofText line with
    | .error fault => ⟨.oneSkipped, [.logged (skippedEntry number fault)], state, false⟩
    | .ok event =>
        let evaluation := table.react api .steady .unlimited event state
        ⟨.ofCompletion evaluation.verdict.completion?, evaluation.occurrences, evaluation.state,
          evaluation.verdict == .hung⟩

/-- What is done about lines, the first of which has a given number. -/
def workOffAll (table : Table) (api : Api σ) : (number : Nat) → List String → σ → Progress σ
  | _, [], state => ⟨.zero, [], state, false⟩
  | number, line :: rest, state =>
      let first := workOff table api number line state
      if first.isStuck then first
      else
        let others := workOffAll table api (number + 1) rest first.state
        ⟨first.tally.add others.tally, first.occurrences ++ others.occurrences, others.state,
          others.isStuck⟩

end Worker
end EventRules
