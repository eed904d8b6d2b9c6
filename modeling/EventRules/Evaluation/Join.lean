import EventRules.Evaluation.Reaction

/-!
# Join — the branches of one event as their host polls them

The host of an evaluation polls the join of all branches until it is done.  A join of up to thirty
branches gives every branch that has not finished a turn in each poll, so that a poll is a round.

A larger join keeps a queue of the branches that have been woken, at first all of them in the order of
the table, and a poll gives turns from the front of the queue.  A call that suspends either wakes its
branch at once, which puts it at the end of the queue, or leaves that to something outside, which does
so when the poll is over.  A poll ends when nobody is left in the queue.  So that it does end, it also
stops with the second branch that has woken itself, and when as many turns have been given as branches
have not finished; both are counted from the last branch that finished.

* `Crowd.serve`, `Crowd.poll` — the turns of one poll of a larger join;
* `Crowd.await`, `join` — poll after poll;
* `Table.evaluateWithin`, `Table.reactWithin` — an event that is polled only so often.
-/

namespace EventRules

/-- When a branch whose call suspends is woken. -/
inductive Waking where
  | atOnce
  /-- When the poll is over. -/
  | afterwards
  deriving DecidableEq

/-- Up to so many branches have their turns all together. -/
def joinedTogether : Nat := 30

/-- The branches of a larger join, and the places of those that have a turn before them. -/
structure Crowd (n : Nat) where
  branches : Vector Branch n
  /-- Those that have been woken, in the order of their turns. -/
  woken : List (Fin n)
  /-- Those that are woken when the poll is over. -/
  asleep : List (Fin n)

/-- One turn of one branch. -/
structure Turn where
  place : Nat
  occurrences : List Occurrence
  /-- The branch after the turn, or the text with which the log broke down. -/
  next : Except String Branch

/-- What the turns of a poll come to. -/
structure Served (n : Nat) (σ : Type) where
  turns : List Turn
  state : σ
  /-- The branches after the turns, or the text with which the log broke down. -/
  next : Except String (Crowd n)

/-- When the call of a branch that waits wakes it. -/
def Branch.waking? (waking : Call → Waking) (branch : Branch) : Option Waking :=
  match branch.stage with
  | .waiting call _ _ => some (waking call)
  | _ => none

/-- Whether a branch has suspended and woken itself. -/
def Branch.yields (waking : Call → Waking) (branch : Branch) : Bool :=
  branch.waking? waking = some .atOnce

theorem Branch.yields_of_isFinished {branch : Branch} (finished : branch.isFinished = true)
    (waking : Call → Waking) : branch.yields waking = false := by
  rcases branch with ⟨rule, stage⟩
  cases stage with
  | finished result =>
      rfl
  | _ =>
      simp [isFinished] at finished

/-! ## When a poll stops -/

/-- The turns of a poll since a branch has finished in it. -/
structure Pace where
  turns : Nat
  /-- Whether one of the branches has woken itself. -/
  yielded : Bool

namespace Pace

def fresh : Pace := ⟨0, false⟩

/-- The pace after one more turn, unless the poll stops with it. -/
def next? (pace : Pace) (waking : Call → Waking) (unfinished : Nat) (branch : Branch) :
    Option Pace :=
  if branch.isFinished then some fresh
  else if (branch.yields waking && pace.yielded) || pace.turns + 1 == unfinished then none
  else some ⟨pace.turns + 1, branch.yields waking || pace.yielded⟩

end Pace

/-! ## Turns -/

namespace Crowd

variable {n : Nat} {σ : Type}

/-- How many branches have not finished. -/
def unfinished (crowd : Crowd n) : Nat :=
  crowd.branches.toList.countP fun branch => !branch.isFinished

/-- The branches after the turn of the one at the front of the queue. -/
def after (crowd : Crowd n) (waking : Call → Waking) (place : Fin n) (rest : List (Fin n))
    (branch : Branch) : Crowd n :=
  let branches := crowd.branches.set place branch place.isLt
  match branch.waking? waking with
  | none => ⟨branches, rest, crowd.asleep⟩
  | some .atOnce => ⟨branches, rest ++ [place], crowd.asleep⟩
  | some .afterwards => ⟨branches, rest, crowd.asleep ++ [place]⟩

theorem length_woken_after (crowd : Crowd n) (waking : Call → Waking) (place : Fin n)
    (rest : List (Fin n)) (branch : Branch) :
    (crowd.after waking place rest branch).woken.length =
      rest.length + if branch.yields waking then 1 else 0 := by
  rw [after, Branch.yields]
  rcases branch.waking? waking with _ | _ | _ <;> simp

/-- So many turns are left to a poll at the most. -/
def turnsLeft (woken : List (Fin n)) (pace : Pace) : Nat :=
  2 * woken.length + if pace.yielded then 0 else 1

/-- With its turn a branch leaves the queue, unless it is the first to wake itself. -/
theorem turnsLeft_after (crowd : Crowd n) {waking : Call → Waking} (place : Fin n)
    (rest : List (Fin n)) {branch : Branch} {pace next : Pace} {unfinished : Nat}
    (goesOn : pace.next? waking unfinished branch = some next) :
    turnsLeft (crowd.after waking place rest branch).woken next <
      turnsLeft (place :: rest) pace := by
  rw [turnsLeft, turnsLeft, length_woken_after, List.length_cons]
  unfold Pace.next? at goesOn
  split at goesOn
  · next finished =>
      cases goesOn
      rw [Branch.yields_of_isFinished finished waking]
      cases pace.yielded <;> simp [Pace.fresh]
      omega
  · split at goesOn
    · cases goesOn
    · next goes =>
        cases goesOn
        cases hyields : branch.yields waking <;> cases hyielded : pace.yielded <;>
          simp [hyields, hyielded] at goes ⊢

/-- Gives turns from the front of the queue, until the poll stops. -/
def serve (api : Api σ) (sink : LogSink) (waking : Call → Waking) (pace : Pace) (crowd : Crowd n)
    (state : σ) : Served n σ :=
  match hwoken : crowd.woken with
  | [] => ⟨[], state, .ok crowd⟩
  | place :: rest =>
      let made := (crowd.branches.get place).advance api sink state
      let turn : Turn := ⟨place, made.occurrences, made.next⟩
      match made.next with
      | .error text => ⟨[turn], made.state, .error text⟩
      | .ok branch =>
          let crowd := crowd.after waking place rest branch
          match hnext : pace.next? waking crowd.unfinished branch with
          | none => ⟨[turn], made.state, .ok crowd⟩
          | some next =>
              let others := crowd.serve api sink waking next made.state
              { others with turns := turn :: others.turns }
termination_by turnsLeft crowd.woken pace
decreasing_by
  rw [hwoken]
  exact turnsLeft_after _ place rest hnext

/-- The branches between two polls. -/
def rouse (crowd : Crowd n) : Crowd n := ⟨crowd.branches, crowd.woken ++ crowd.asleep, []⟩

def poll (api : Api σ) (sink : LogSink) (waking : Call → Waking) (crowd : Crowd n) (state : σ) :
    Served n σ :=
  let served := crowd.serve api sink waking .fresh state
  { served with next := served.next.map rouse }

end Crowd

/-! ## Poll after poll -/

/-- What has become of an evaluation, poll by poll. -/
structure Joined (σ : Type) where
  verdict : Verdict
  polls : List (List Turn)
  state : σ

namespace Joined

variable {σ : Type}

/-- The turns of all polls. -/
def turns (joined : Joined σ) : List Turn := joined.polls.flatten

def evaluation (joined : Joined σ) : Evaluation σ :=
  ⟨joined.verdict, joined.turns.flatMap Turn.occurrences, joined.state⟩

end Joined

namespace Crowd

variable {n : Nat} {σ : Type}

def ofPrepared (prepared : List Prepared) : Crowd prepared.length where
  branches := ⟨(prepared.map Branch.ofPrepared).toArray, by simp⟩
  woken := List.finRange prepared.length
  asleep := []

/-- Goes on until all branches have finished, for at most so many polls. -/
def await (api : Api σ) (sink : LogSink) (waking : Call → Waking) :
    (polls : Nat) → Crowd n → σ → Joined σ
  | polls, crowd, state =>
      if crowd.branches.toList.all Branch.isFinished then
        ⟨.settled (crowd.branches.toList.filterMap Branch.failure?), [], state⟩
      else
        match polls with
        | 0 => ⟨.hung, [], state⟩
        | left + 1 =>
            let made := crowd.poll api sink waking state
            match made.next with
            | .error text => ⟨.unwound text, [made.turns], made.state⟩
            | .ok next =>
                let rest := next.await api sink waking left made.state
                { rest with polls := made.turns :: rest.polls }

end Crowd

variable {σ : Type}

/-- A larger join that is polled so often at the most, and once at least. -/
def join (api : Api σ) (sink : LogSink) (waking : Call → Waking) (polls : Nat)
    (prepared : List Prepared) (state : σ) : Joined σ :=
  (Crowd.ofPrepared prepared).await api sink waking (max polls 1) state

/-- The evaluation of what the rules have prepared, with so many polls. -/
def evaluateWithin (api : Api σ) (sink : LogSink) (waking : Call → Waking) (polls : Nat)
    (prepared : List Prepared) (state : σ) : Evaluation σ :=
  if prepared.length ≤ joinedTogether then evaluate api sink (.rounds polls) prepared state
  else (join api sink waking polls prepared state).evaluation

/-! ## Events -/

namespace Table

/-- The larger join of all rules of a table. -/
def join (table : Table) (api : Api σ) (sink : LogSink) (waking : Call → Waking) (polls : Nat)
    (event : HostEvent) (state : σ) : Joined σ :=
  EventRules.join api sink waking polls (table.prepare event) state

def evaluateWithin (table : Table) (api : Api σ) (sink : LogSink) (waking : Call → Waking)
    (polls : Nat) (event : HostEvent) (state : σ) : Evaluation σ :=
  EventRules.evaluateWithin api sink waking polls (table.prepare event) state

/-- The evaluation of an event with all that follows from it, with so many polls. -/
def reactWithin (table : Table) (api : Api σ) (sink : LogSink) (waking : Call → Waking)
    (polls : Nat) (event : HostEvent) (state : σ) : Evaluation σ :=
  (table.evaluateWithin api sink waking polls event state).completed event

end Table

end EventRules
