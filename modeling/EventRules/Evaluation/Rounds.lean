import EventRules.Evaluation.Prepare
import EventRules.Remote.Dispatch

/-!
# Rounds — the calls of one event, side by side

Every rule has a branch.  A round gives each branch that has not finished one turn, in the order of the
table, in which it is advanced until it suspends or finishes.  The calls of all rules that fired begin
in the first round, and a call that suspends `n` times ends in round `n + 1`.  A fault, or a call that
breaks down, finishes its own branch only; a log that breaks down ends the whole evaluation.

Up to thirty branches have a round in every poll of their host.  How the turns of more branches fall to
the polls is told by `Evaluation.Join`; they come to what rounds come to.

* `Branch.advance` — one branch in one round;
* `round`, `settle` — all branches in one round, and round after round;
* `evaluate` — the evaluation of what the rules have prepared.
-/

namespace EventRules

/-- How far a branch has come. -/
inductive Stage where
  | ready (result : Except RuleFault (Option Call))
  /-- The call ends after so many more suspensions. -/
  | waiting (call : Call) (ending : Ending) (left : Nat)
  /-- The call never ends. -/
  | stuck (call : Call)
  | finished (result : Except RuleFault Unit)

structure Branch where
  rule : String
  stage : Stage

/-- Whether the log breaks down, with a text, when it is told that a rule fires. -/
inductive LogSink where
  | steady
  | breaking (text : String)
  deriving DecidableEq

/-- How many rounds an evaluation may take. -/
inductive Patience where
  | rounds (limit : Nat)
  | unlimited
  deriving DecidableEq

/-! ## One branch -/

namespace Branch

variable {σ : Type}

def ofPrepared (prepared : Prepared) : Branch := ⟨prepared.rule, .ready prepared.result⟩

def isFinished (branch : Branch) : Bool :=
  match branch.stage with
  | .finished _ => true
  | _ => false

/-- The entry that says that a rule fires. -/
def runningEntry (rule : String) (call : Call) : LogEntry where
  level := .info
  source := .evaluation
  message := "running rule"
  fields := [
    .plain "rule" rule,
    .plain "thng" call.target,
    .quoted "kind" call.payload.kind]

/-- The result of a branch whose call has ended. -/
def resultOf : Ending → Except RuleFault Unit
  | .answered _ => .ok ()
  | .failed fault => .error (.ofDispatch (.remote fault))
  | .panicked text => .error (.panicked text)

/-- What one branch does in one round. -/
structure Advance (σ : Type) where
  occurrences : List Occurrence
  state : σ
  /-- The branch after the round, or the text with which the log broke down. -/
  next : Except String Branch

def finishing (api : Api σ) (rule : String) (call : Call) (ending : Ending) :
    List Occurrence × Branch :=
  (ending.closing api.name call, ⟨rule, .finished (resultOf ending)⟩)

/-- Begins the call of a rule that fires. -/
def begin (api : Api σ) (rule : String) (call : Call) (state : σ) : Advance σ :=
  let (conduct, state) := api.call call state
  let opening := conduct.opening call
  match conduct.ending, conduct.suspensions with
  | none, _ => ⟨opening, state, .ok ⟨rule, .stuck call⟩⟩
  | some ending, 0 =>
      let (closing, branch) := finishing api rule call ending
      ⟨opening ++ closing, state, .ok branch⟩
  | some ending, left + 1 => ⟨opening, state, .ok ⟨rule, .waiting call ending left⟩⟩

def advance (api : Api σ) (sink : LogSink) (branch : Branch) (state : σ) : Advance σ :=
  match branch.stage with
  | .ready (.error fault) => ⟨[], state, .ok ⟨branch.rule, .finished (.error fault)⟩⟩
  | .ready (.ok none) => ⟨[], state, .ok ⟨branch.rule, .finished (.ok ())⟩⟩
  | .ready (.ok (some call)) =>
      let running := Occurrence.logged (runningEntry branch.rule call)
      match sink with
      | .breaking text => ⟨[running], state, .error text⟩
      | .steady =>
          let begun := begin api branch.rule call state
          { begun with occurrences := running :: begun.occurrences }
  | .waiting call ending 0 =>
      let (closing, next) := finishing api branch.rule call ending
      ⟨closing, state, .ok next⟩
  | .waiting call ending (left + 1) =>
      ⟨[], state, .ok ⟨branch.rule, .waiting call ending left⟩⟩
  | .stuck call => ⟨[], state, .ok ⟨branch.rule, .stuck call⟩⟩
  | .finished result => ⟨[], state, .ok ⟨branch.rule, .finished result⟩⟩

end Branch

/-! ## All branches -/

/-- The fault of one rule. -/
structure Failure where
  rule : String
  fault : RuleFault
  deriving DecidableEq

namespace Failure

/-- All failures in one line: how many there are, and the first. -/
def summary (failures : List Failure) : String :=
  toString failures.length ++ " rule(s) failed, first: " ++
    match failures with
    | [] => ""
    | first :: _ => "[" ++ first.rule ++ "] " ++ first.fault.message

end Failure

/-- What has become of an evaluation. -/
inductive Verdict where
  /-- All branches finished; the failures are in the order of the table. -/
  | settled (failures : List Failure)
  | hung
  /-- The log broke down with a text. -/
  | unwound (text : String)
  deriving DecidableEq

structure Evaluation (σ : Type) where
  verdict : Verdict
  occurrences : List Occurrence
  state : σ

/-- What all branches do in one round. -/
structure Round (σ : Type) where
  occurrences : List Occurrence
  state : σ
  next : Except String (List Branch)

variable {σ : Type}

/-- Advances every branch, unless the log breaks down on the way. -/
def round (api : Api σ) (sink : LogSink) : List Branch → σ → Round σ
  | [], state => ⟨[], state, .ok []⟩
  | branch :: rest, state =>
      let first := branch.advance api sink state
      match first.next with
      | .error text => ⟨first.occurrences, first.state, .error text⟩
      | .ok next =>
          let others := round api sink rest first.state
          ⟨first.occurrences ++ others.occurrences, others.state,
            others.next.map fun branches => next :: branches⟩

namespace Branch

/-- The failure of a branch that has finished with one. -/
def failure? (branch : Branch) : Option Failure :=
  match branch.stage with
  | .finished (.error fault) => some ⟨branch.rule, fault⟩
  | _ => none

/-- How many more rounds a branch needs, if it finishes at all. -/
def roundsLeft (branch : Branch) : Nat :=
  match branch.stage with
  | .waiting _ _ left => left + 1
  | _ => 0

end Branch

/-- How many rounds may follow the first. -/
def Patience.afterFirst (patience : Patience) (branches : List Branch) : Nat :=
  match patience with
  | .rounds limit => limit - 1
  | .unlimited => (branches.map Branch.roundsLeft).foldl max 0

/-- Goes on until all branches have finished, for at most so many rounds. -/
def settle (api : Api σ) (sink : LogSink) : (rounds : Nat) → List Branch → σ → Evaluation σ
  | rounds, branches, state =>
      if branches.all Branch.isFinished then
        ⟨.settled (branches.filterMap Branch.failure?), [], state⟩
      else
        match rounds with
        | 0 => ⟨.hung, [], state⟩
        | left + 1 =>
            let made := round api sink branches state
            match made.next with
            | .error text => ⟨.unwound text, made.occurrences, made.state⟩
            | .ok next =>
                let rest := settle api sink left next made.state
                { rest with occurrences := made.occurrences ++ rest.occurrences }

/-- The evaluation of what the rules have prepared. -/
def evaluate (api : Api σ) (sink : LogSink) (patience : Patience) (prepared : List Prepared)
    (state : σ) : Evaluation σ :=
  let first := round api sink (prepared.map Branch.ofPrepared) state
  match first.next with
  | .error text => ⟨.unwound text, first.occurrences, first.state⟩
  | .ok branches =>
      let rest := settle api sink (patience.afterFirst branches) branches first.state
      { rest with occurrences := first.occurrences ++ rest.occurrences }

end EventRules
