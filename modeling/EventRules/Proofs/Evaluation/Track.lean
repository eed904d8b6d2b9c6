import EventRules.Evaluation.Rounds

/-!
# Track — the whole way of one branch

What a branch does in each round is settled as soon as the service has taken up its call.  A *track*
keeps that: the name of the rule, and either a fault, or nothing, or the call with its conduct.

* `Track.seenIn`, `Track.branchAfter` — what can be seen of a branch in a round, and how it stands then;
* `Branch.advance_branchAfter` — one round leads from one stand of a track to the next;
* `round_ofPrepared`, `round_branchAfter` — the same for all branches at once.
-/

namespace EventRules

/-- What becomes of a rule, once the service has taken up its call. -/
inductive Course where
  | faulted (fault : RuleFault)
  | idle
  | calling (call : Call) (conduct : Conduct)

structure Track where
  rule : String
  course : Course

namespace Track

/-- What can be seen of a branch in a round; rounds are counted from one. -/
def seenIn (service : String) (round : Nat) (track : Track) : List Occurrence :=
  match track.course with
  | .calling call conduct =>
      (if round = 1 then
        .logged (Branch.runningEntry track.rule call) :: conduct.opening call
      else []) ++
      (if round = conduct.suspensions + 1 then
        (conduct.ending.map (Ending.closing service call)).getD []
      else [])
  | _ => []

theorem seenIn_calling (service : String) (round : Nat) (rule : String) (call : Call)
    (conduct : Conduct) :
    seenIn service round ⟨rule, .calling call conduct⟩ =
      (if round = 1 then .logged (Branch.runningEntry rule call) :: conduct.opening call else []) ++
      (if round = conduct.suspensions + 1 then
        (conduct.ending.map (Ending.closing service call)).getD []
      else []) :=
  rfl

/-- How the branch stands after a round; there is no stand before the first. -/
def branchAfter (round : Nat) (track : Track) : Branch :=
  match track.course with
  | .faulted fault => ⟨track.rule, .finished (.error fault)⟩
  | .idle => ⟨track.rule, .finished (.ok ())⟩
  | .calling call conduct =>
      match conduct.ending with
      | none => ⟨track.rule, .stuck call⟩
      | some ending =>
          -- a call without suspensions has ended when the first round is over
          if conduct.suspensions < round then
            ⟨track.rule, .finished (Branch.resultOf ending)⟩
          else ⟨track.rule, .waiting call ending (conduct.suspensions - round)⟩

/-- The round in which the branch finishes, if it does. -/
def lastRound? (track : Track) : Option Nat :=
  match track.course with
  | .calling _ conduct => conduct.ending.map fun _ => conduct.suspensions + 1
  | _ => some 1

/-- The failure that the branch finishes with, if it finishes with one. -/
def failure? (track : Track) : Option Failure :=
  match track.course with
  | .faulted fault => some ⟨track.rule, fault⟩
  | .idle => none
  | .calling _ conduct =>
      match conduct.ending with
      | some (.failed fault) => some ⟨track.rule, .remote fault⟩
      | some (.panicked text) => some ⟨track.rule, .panicked text⟩
      | _ => none

end Track

/-! ## From what is prepared to tracks -/

namespace Prepared

/-- The call of a rule that fires. -/
def call? (prepared : Prepared) : Option Call :=
  match prepared.result with
  | .ok call => call
  | .error _ => none

/-- The track of a rule, given how the service conducts its call. -/
def track (conduct : Call → Conduct) (prepared : Prepared) : Track where
  rule := prepared.rule
  course :=
    match prepared.result with
    | .error fault => .faulted fault
    | .ok none => .idle
    | .ok (some call) => .calling call (conduct call)

theorem track_call (conduct : Call → Conduct) (rule : String) (call : Call) :
    track conduct ⟨rule, .ok (some call)⟩ = ⟨rule, .calling call (conduct call)⟩ :=
  rfl

variable {σ : Type}

/-- The state of the service once the rule has begun its call, if it has one. -/
def stateAfter (api : Api σ) (prepared : Prepared) (state : σ) : σ :=
  match prepared.result with
  | .ok (some call) => (api.call call state).2
  | _ => state

end Prepared

section Tracks

variable {σ : Type}

/-- The tracks of all rules: each call meets the state that the calls before it left behind. -/
def tracks (api : Api σ) : List Prepared → σ → List Track
  | [], _ => []
  | prepared :: rest, state =>
      prepared.track (fun call => (api.call call state).1) ::
        tracks api rest (prepared.stateAfter api state)

def stateAfterAll (api : Api σ) (prepared : List Prepared) (state : σ) : σ :=
  prepared.foldl (fun state one => one.stateAfter api state) state

end Tracks

/-! ## Stands of a track -/

namespace Track

theorem isFinished_branchAfter (track : Track) (round : Nat) :
    (track.branchAfter (round + 1)).isFinished = true ↔
      ∃ last, track.lastRound? = some last ∧ last ≤ round + 1 := by
  rcases track with ⟨rule, course⟩
  cases course with
  | faulted fault =>
      simp [branchAfter, lastRound?, Branch.isFinished]
  | idle =>
      simp [branchAfter, lastRound?, Branch.isFinished]
  | calling call conduct =>
      cases hending : conduct.ending with
      | none =>
          simp [branchAfter, lastRound?, Branch.isFinished, hending]
      | some ending =>
          by_cases hround : conduct.suspensions < round + 1
          · simp [branchAfter, lastRound?, Branch.isFinished, hending, hround]
            omega
          · simp [branchAfter, lastRound?, Branch.isFinished, hending, hround]
            omega

/-- A branch that has finished fails as its track says. -/
theorem failure?_branchAfter {track : Track} {round : Nat}
    (finished : (track.branchAfter round).isFinished = true) :
    (track.branchAfter round).failure? = track.failure? := by
  rcases track with ⟨rule, course⟩
  cases course with
  | faulted fault =>
      rfl
  | idle =>
      rfl
  | calling call conduct =>
      cases hending : conduct.ending with
      | none =>
          simp [branchAfter, Branch.isFinished, hending] at finished
      | some ending =>
          by_cases hround : conduct.suspensions < round
          · cases ending <;>
              simp [branchAfter, failure?, Branch.failure?, Branch.resultOf, RuleFault.ofDispatch,
                hending, hround]
          · simp [branchAfter, Branch.isFinished, hending, hround] at finished

/-- Nothing more is seen of a branch that has finished. -/
theorem seenIn_of_lastRound {track : Track} {service : String} {last round : Nat}
    (hlast : track.lastRound? = some last) (hround : last < round) :
    track.seenIn service round = [] := by
  rcases track with ⟨rule, course⟩
  cases course with
  | faulted fault =>
      rfl
  | idle =>
      rfl
  | calling call conduct =>
      cases hending : conduct.ending with
      | none =>
          simp [lastRound?, hending] at hlast
      | some ending =>
          have hlast' : conduct.suspensions + 1 = last := by
            simpa [lastRound?, hending] using hlast
          have hfirst : round ≠ 1 := by omega
          have hown : round ≠ conduct.suspensions + 1 := by omega
          simp [seenIn, hfirst, hown]

end Track

/-! ## One branch in one round -/

namespace Branch

variable {σ : Type}

/-- The first round takes a branch from what is prepared to its track. -/
theorem advance_ofPrepared (api : Api σ) (prepared : Prepared) (state : σ) :
    (ofPrepared prepared).advance api .steady state =
      let track := prepared.track fun call => (api.call call state).1
      ⟨track.seenIn api.name 1, prepared.stateAfter api state, .ok (track.branchAfter 1)⟩ := by
  rcases prepared with ⟨rule, result⟩
  cases result with
  | error fault =>
      rfl
  | ok call? =>
      cases call? with
      | none =>
          rfl
      | some call =>
          rcases hcall : api.call call state with ⟨⟨entries, suspensions, ending⟩, after⟩
          cases ending with
          | none =>
              simp [ofPrepared, advance, begin, Prepared.track, Prepared.stateAfter, Track.seenIn,
                Track.branchAfter, hcall]
          | some ending =>
              cases suspensions with
              | zero =>
                  simp [ofPrepared, advance, begin, finishing, Prepared.track,
                    Prepared.stateAfter, Track.seenIn, Track.branchAfter, hcall]
              | succ left =>
                  simp [ofPrepared, advance, begin, Prepared.track, Prepared.stateAfter,
                    Track.seenIn, Track.branchAfter, hcall]

/-- Every later round takes a branch one round further on its track. -/
theorem advance_branchAfter (api : Api σ) (sink : LogSink) (track : Track) (round : Nat)
    (state : σ) :
    (track.branchAfter (round + 1)).advance api sink state =
      ⟨track.seenIn api.name (round + 2), state, .ok (track.branchAfter (round + 2))⟩ := by
  rcases track with ⟨rule, course⟩
  cases course with
  | faulted fault =>
      rfl
  | idle =>
      rfl
  | calling call conduct =>
      cases hending : conduct.ending with
      | none =>
          simp [Track.branchAfter, Track.seenIn, advance, hending]
      | some ending =>
          rcases Nat.lt_trichotomy conduct.suspensions (round + 1) with hless | hequal | hmore
          · -- the call has ended before
            have hnext : conduct.suspensions < round + 2 := by omega
            have hown : round + 1 ≠ conduct.suspensions := by omega
            simp [Track.branchAfter, Track.seenIn, advance, hending, hless, hnext, hown]
          · -- the call ends in this round
            simp [Track.branchAfter, Track.seenIn, advance, finishing, hending, hequal]
          · -- the call goes on waiting
            obtain ⟨left, hleft⟩ : ∃ left, conduct.suspensions = round + 2 + left :=
              Nat.exists_eq_add_of_le (by omega)
            have hnow : round + 2 + left - (round + 1) = left + 1 := by omega
            have hnext : round + 2 + left - (round + 2) = left := by omega
            have hbefore : ¬ round + 2 + left < round + 1 := by omega
            have hown : round + 1 ≠ round + 2 + left := by omega
            simp [Track.branchAfter, Track.seenIn, advance, hending, hleft, hnow, hnext, hbefore,
              hown]

end Branch

/-! ## All branches in one round -/

section Rounds

variable {σ : Type}

theorem round_ofPrepared (api : Api σ) (prepared : List Prepared) (state : σ) :
    round api .steady (prepared.map Branch.ofPrepared) state =
      ⟨(tracks api prepared state).flatMap (Track.seenIn api.name 1),
        stateAfterAll api prepared state,
        .ok ((tracks api prepared state).map (Track.branchAfter 1))⟩ := by
  -- each call meets the state that the calls before it left behind, so for any state
  induction prepared generalizing state with
  | nil =>
      rfl
  | cons first rest ih =>
      simp [round, tracks, stateAfterAll, Branch.advance_ofPrepared, ih, Except.map]

theorem round_branchAfter (api : Api σ) (sink : LogSink) (branches : List Track) (n : Nat)
    (state : σ) :
    round api sink (branches.map (Track.branchAfter (n + 1))) state =
      ⟨branches.flatMap (Track.seenIn api.name (n + 2)), state,
        .ok (branches.map (Track.branchAfter (n + 2)))⟩ := by
  induction branches with
  | nil =>
      rfl
  | cons first rest ih =>
      simp [round, Branch.advance_branchAfter, ih, Except.map]

end Rounds

end EventRules
