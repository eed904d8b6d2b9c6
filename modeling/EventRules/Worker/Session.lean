import EventRules.LogFilter
import EventRules.Occurrence

/-!
# Session — how a run of the worker goes

A session is what can be seen of a run, the status with which it ends, and the problem that ended it.

* `Problem.text` — a problem with all that is behind it;
* `Session.output` — what is written, as far as a log filter shows it.
-/

namespace EventRules

/-! ## Problems -/

/-- A problem that ends a run, and its causes from the outside to the inside. -/
structure Problem where
  message : String
  causes : List String
  deriving DecidableEq

namespace Problem

/-- A text with its lines moved to the right, the first one behind a mark. -/
def hanging (mark text : String) : String :=
  let blank := String.ofList (List.replicate mark.length ' ')
  mark ++ text.replace "\n" ("\n" ++ blank)

/-- The number of a cause in five places. -/
def numberMark (n : Nat) : String :=
  let digits := toString n
  String.ofList (List.replicate (5 - digits.length) ' ') ++ digits ++ ": "

def numbered : (n : Nat) → List String → List String
  | _, [] => []
  | n, cause :: rest => hanging (numberMark n) cause :: numbered (n + 1) rest

def causeLines : List String → List String
  | [cause] => [hanging "    " cause]
  | causes => numbered 0 causes

def text (problem : Problem) : String :=
  let behind :=
    if problem.causes.isEmpty then ""
    else "\n\nCaused by:\n" ++ "\n".intercalate (causeLines problem.causes)
  "Error: " ++ problem.message ++ behind ++ "\n"

end Problem

/-! ## Sessions -/

structure Session (σ : Type) where
  occurrences : List Occurrence
  /-- The status with which the run ends, if it does. -/
  status : Option Nat
  /-- What is written about the problem that ended the run. -/
  errors : String
  state : σ

/-- What a log filter shows of an occurrence. -/
def Occurrence.output (filter : LogFilter) : Occurrence → String
  | .logged entry => if filter.shows entry then entry.line ++ "\n" else ""
  | .printed text => text
  | _ => ""

namespace Session

variable {σ : Type}

/-- A run that ends well. -/
def succeeded (state : σ) : Session σ := ⟨[], some 0, "", state⟩

/-- A run that a problem ends. -/
def failed (problem : Problem) (state : σ) : Session σ := ⟨[], some 1, problem.text, state⟩

/-- A run that never ends. -/
def endless (state : σ) : Session σ := ⟨[], none, "", state⟩

/-- A session with something before it. -/
def after (before : List Occurrence) (session : Session σ) : Session σ :=
  { session with occurrences := before ++ session.occurrences }

def afterEntries (entries : List LogEntry) (session : Session σ) : Session σ :=
  session.after (entries.map .logged)

def output (filter : LogFilter) (session : Session σ) : String :=
  String.join (session.occurrences.map (Occurrence.output filter))

end Session

end EventRules
