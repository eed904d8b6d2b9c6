import Mathlib.Data.List.Basic
import EventRules.Proofs.Evaluation.Track

/-!
# Run — an evaluation as the sum of its tracks

With a log that does not break down, every round shows what the tracks say about it, and the evaluation
is settled when all tracks come to an end within its patience, and hung otherwise.  A log that breaks
down ends the evaluation at the first rule that fires, and makes no difference if none does.

* `evaluate_steady` — verdict, trace and state of an evaluation in terms of its tracks;
* `evaluate_steady_settled`, `evaluate_steady_hung` — when it ends, and how;
* `evaluate_breaking`, `evaluate_of_silent` — what a log that breaks down makes of it.
-/

namespace EventRules

/-- Whether an evaluation may take so many rounds; the first is always made. -/
def Patience.allows : Patience → Nat → Bool
  | .rounds limit, n => decide (n ≤ max limit 1)
  | .unlimited, _ => true

/-- The last round that an evaluation of these tracks may come to. -/
def Patience.lastRound (patience : Patience) (branches : List Track) : Nat :=
  patience.afterFirst (branches.map (Track.branchAfter 1)) + 1

namespace Track

/-- The branch finishes, and the rounds that it takes are allowed. -/
def EndsWithin (patience : Patience) (track : Track) : Prop :=
  ∃ last, track.lastRound? = some last ∧ patience.allows last = true

/-- Whether all branches have finished after a round. -/
def allFinished (round : Nat) (branches : List Track) : Bool :=
  branches.all fun track => (track.branchAfter round).isFinished

/-- What has become of an evaluation after a round. -/
def verdictAfter (round : Nat) (branches : List Track) : Verdict :=
  if allFinished round branches then .settled (branches.filterMap failure?) else .hung

/-- What can be seen of all branches in some rounds that follow each other. -/
def seenFrom (service : String) (first count : Nat) (branches : List Track) : List Occurrence :=
  (List.range' first count).flatMap fun round => branches.flatMap (seenIn service round)

theorem seenFrom_succ (service : String) (first count : Nat) (branches : List Track) :
    seenFrom service first (count + 1) branches =
      branches.flatMap (seenIn service first) ++ seenFrom service (first + 1) count branches := by
  rw [seenFrom, List.range'_succ, List.flatMap_cons, seenFrom]

end Track

/-! ## The last round -/

theorem le_foldl_max {n start : Nat} {ns : List Nat} (h : n ∈ ns) : n ≤ ns.foldl max start := by
  rw [List.foldl_max_eq_max (List.ne_nil_of_mem h)]
  exact Nat.le_trans (List.le_max_of_mem h) (Nat.le_max_right _ _)

theorem Track.roundsLeft_branchAfter_one {track : Track} {last : Nat}
    (hlast : track.lastRound? = some last) :
    (track.branchAfter 1).roundsLeft + 1 = last := by
  rcases track with ⟨rule, course⟩
  cases course with
  | faulted fault =>
      simpa [lastRound?, branchAfter, Branch.roundsLeft] using hlast
  | idle =>
      simpa [lastRound?, branchAfter, Branch.roundsLeft] using hlast
  | calling call conduct =>
      cases hending : conduct.ending with
      | none =>
          simp [lastRound?, hending] at hlast
      | some ending =>
          have hsum : conduct.suspensions + 1 = last := by
            simpa [lastRound?, hending] using hlast
          by_cases hnow : conduct.suspensions < 1
          · simp [branchAfter, Branch.roundsLeft, hending, hnow]
            omega
          · simp [branchAfter, Branch.roundsLeft, hending, hnow]
            omega

/-- A branch that finishes does so before the last round if and only if its rounds are allowed. -/
theorem Patience.le_lastRound_iff (patience : Patience) {branches : List Track} {track : Track}
    (htrack : track ∈ branches) {last : Nat} (hlast : track.lastRound? = some last) :
    last ≤ patience.lastRound branches ↔ patience.allows last = true := by
  cases patience with
  | rounds limit =>
      -- even with a limit of zero there is a first round
      simp only [lastRound, afterFirst, allows, decide_eq_true_eq]
      omega
  | unlimited =>
      -- the rounds after the first are counted from what the slowest branch has left
      have hmem : (track.branchAfter 1).roundsLeft ∈
          (branches.map (Track.branchAfter 1)).map Branch.roundsLeft :=
        List.mem_map_of_mem (List.mem_map_of_mem htrack)
      have hle : (track.branchAfter 1).roundsLeft ≤
          ((branches.map (Track.branchAfter 1)).map Branch.roundsLeft).foldl max 0 :=
        le_foldl_max hmem
      have hsum := Track.roundsLeft_branchAfter_one hlast
      simp only [lastRound, afterFirst, allows, iff_true]
      omega

theorem Track.allFinished_lastRound_iff (patience : Patience) (branches : List Track) :
    allFinished (patience.lastRound branches) branches = true ↔
      ∀ track ∈ branches, track.EndsWithin patience := by
  rw [allFinished, List.all_eq_true]
  refine forall₂_congr fun track htrack => ?_
  rw [Patience.lastRound, isFinished_branchAfter, EndsWithin]
  refine exists_congr fun last => and_congr_right fun hlast => ?_
  exact patience.le_lastRound_iff htrack hlast

/-! ## Round after round -/

namespace Track

theorem isFinished_mono {track : Track} {round later : Nat} (hle : round ≤ later)
    (finished : (track.branchAfter (round + 1)).isFinished = true) :
    (track.branchAfter (later + 1)).isFinished = true := by
  obtain ⟨last, hlast, hround⟩ := (isFinished_branchAfter track round).1 finished
  exact (isFinished_branchAfter track later).2 ⟨last, hlast, by omega⟩

theorem allFinished_mono {branches : List Track} {round later : Nat} (hle : round ≤ later)
    (finished : allFinished (round + 1) branches = true) :
    allFinished (later + 1) branches = true := by
  rw [allFinished, List.all_eq_true] at finished ⊢
  intro track htrack
  exact isFinished_mono hle (finished track htrack)

/-- Nothing more is seen once all branches have finished. -/
theorem seenFrom_of_finished {branches : List Track} {round : Nat} (service : String)
    (finished : allFinished (round + 1) branches = true) (count : Nat) :
    seenFrom service (round + 2) count branches = [] := by
  rw [allFinished, List.all_eq_true] at finished
  simp only [seenFrom, List.flatMap_eq_nil_iff, List.mem_range'_1]
  intro later hlater track htrack
  obtain ⟨last, hlast, hround⟩ := (isFinished_branchAfter track round).1 (finished track htrack)
  exact seenIn_of_lastRound hlast (by omega)

theorem all_isFinished_map (round : Nat) (branches : List Track) :
    (branches.map (branchAfter round)).all Branch.isFinished = allFinished round branches := by
  rw [List.all_map]
  rfl

theorem filterMap_failure?_branchAfter {branches : List Track} {round : Nat}
    (finished : allFinished round branches = true) :
    (branches.map (branchAfter round)).filterMap Branch.failure? =
      branches.filterMap failure? := by
  rw [allFinished, List.all_eq_true] at finished
  rw [List.filterMap_map]
  exact List.filterMap_congr fun track htrack => failure?_branchAfter (finished track htrack)

end Track

section Runs

variable {σ : Type}

/-- From a stand on, the run goes along the tracks; the log no longer matters. -/
theorem settle_branchAfter (api : Api σ) (sink : LogSink) (branches : List Track)
    (left n : Nat) (state : σ) :
    settle api sink left (branches.map (Track.branchAfter (n + 1))) state =
      ⟨Track.verdictAfter (n + 1 + left) branches,
        Track.seenFrom api.name (n + 2) left branches, state⟩ := by
  induction left generalizing n with
  | zero =>
      rw [settle, Track.all_isFinished_map]
      cases hall : Track.allFinished (n + 1) branches with
      | true =>
          have hfailures := Track.filterMap_failure?_branchAfter hall
          simp [Track.verdictAfter, Track.seenFrom, hall, hfailures]
      | false =>
          simp [Track.verdictAfter, Track.seenFrom, hall]
  | succ left ih =>
      rw [settle, Track.all_isFinished_map]
      cases hall : Track.allFinished (n + 1) branches with
      | true =>
          -- the rounds that are left over are not made, and would show nothing
          have hfailures := Track.filterMap_failure?_branchAfter hall
          have hlater := Track.allFinished_mono (Nat.le_add_right n (left + 1)) hall
          have hseen := Track.seenFrom_of_finished api.name hall (left + 1)
          have hround : n + 1 + (left + 1) = n + (left + 1) + 1 := by omega
          simp [Track.verdictAfter, hfailures, hseen, hround, hlater]
      | false =>
          have hround : n + 1 + 1 + left = n + 1 + (left + 1) := by omega
          simp [round_branchAfter, ih (n + 1), hround, Track.seenFrom_succ]

/-- An evaluation with a steady log, in terms of its tracks. -/
theorem evaluate_steady (api : Api σ) (patience : Patience) (prepared : List Prepared) (state : σ) :
    evaluate api .steady patience prepared state =
      let branches := tracks api prepared state
      let last := patience.lastRound branches
      ⟨Track.verdictAfter last branches, Track.seenFrom api.name 1 last branches,
        stateAfterAll api prepared state⟩ := by
  have hsettle := settle_branchAfter api .steady (tracks api prepared state)
    (patience.afterFirst ((tracks api prepared state).map (Track.branchAfter 1))) 0
    (stateAfterAll api prepared state)
  rw [Nat.zero_add, Nat.add_comm 1] at hsettle
  simp [evaluate, round_ofPrepared, hsettle, Patience.lastRound, Track.seenFrom_succ]

theorem evaluate_steady_settled (api : Api σ) (patience : Patience) (prepared : List Prepared)
    (state : σ) (failures : List Failure) :
    (evaluate api .steady patience prepared state).verdict = .settled failures ↔
      (∀ track ∈ tracks api prepared state, track.EndsWithin patience) ∧
        failures = (tracks api prepared state).filterMap Track.failure? := by
  rw [evaluate_steady, ← Track.allFinished_lastRound_iff]
  cases hall : Track.allFinished (patience.lastRound (tracks api prepared state))
      (tracks api prepared state) with
  | true =>
      simp [Track.verdictAfter, hall, eq_comm]
  | false =>
      simp [Track.verdictAfter, hall]

theorem evaluate_steady_hung (api : Api σ) (patience : Patience) (prepared : List Prepared)
    (state : σ) :
    (evaluate api .steady patience prepared state).verdict = .hung ↔
      ¬ ∀ track ∈ tracks api prepared state, track.EndsWithin patience := by
  rw [evaluate_steady, ← Track.allFinished_lastRound_iff]
  cases hall : Track.allFinished (patience.lastRound (tracks api prepared state))
      (tracks api prepared state) with
  | true =>
      simp [Track.verdictAfter, hall]
  | false =>
      simp [Track.verdictAfter, hall]

end Runs

/-! ## A log that breaks down -/

namespace Prepared

/-- The rule by its name and its call, if it fires. -/
def firing? (prepared : Prepared) : Option (String × Call) :=
  prepared.call?.map fun call => (prepared.rule, call)

end Prepared

section Breakdown

variable {σ : Type}

theorem Branch.advance_of_silent (api : Api σ) (sink : LogSink) {prepared : Prepared}
    (silent : prepared.call? = none) (state : σ) :
    (ofPrepared prepared).advance api sink state =
      (ofPrepared prepared).advance api .steady state := by
  rcases prepared with ⟨rule, result⟩
  cases result with
  | error fault =>
      rfl
  | ok call? =>
      cases call? with
      | none =>
          rfl
      | some call =>
          simp [Prepared.call?] at silent

/-- A log that breaks down makes no difference if no rule fires. -/
theorem round_of_silent (api : Api σ) (sink : LogSink) {prepared : List Prepared}
    (silent : ∀ one ∈ prepared, one.call? = none) (state : σ) :
    round api sink (prepared.map Branch.ofPrepared) state =
      round api .steady (prepared.map Branch.ofPrepared) state := by
  induction prepared generalizing state with
  | nil =>
      rfl
  | cons first rest ih =>
      have hfirst := Branch.advance_of_silent api sink (silent first (by simp)) state
      have hrest := ih fun one hone => silent one (by simp [hone])
      simp only [List.map_cons, round, hfirst]
      rw [Branch.advance_ofPrepared]
      simp [hrest]

theorem evaluate_of_silent (api : Api σ) (sink : LogSink) (patience : Patience)
    {prepared : List Prepared} (silent : ∀ one ∈ prepared, one.call? = none) (state : σ) :
    evaluate api sink patience prepared state = evaluate api .steady patience prepared state := by
  -- after the first round no branch asks the log any more
  have hsettle := fun left =>
    (settle_branchAfter api sink (tracks api prepared state) left 0
      (stateAfterAll api prepared state)).trans
    (settle_branchAfter api .steady (tracks api prepared state) left 0
      (stateAfterAll api prepared state)).symm
  simp only [Nat.zero_add] at hsettle
  simp only [evaluate, round_of_silent api sink silent, round_ofPrepared, hsettle]

/-- The first rule that fires is the last thing that such a log is told. -/
theorem round_breaking (api : Api σ) (text : String) {prepared : List Prepared}
    {rule : String} {call : Call} (fires : prepared.findSome? Prepared.firing? = some (rule, call))
    (state : σ) :
    round api (.breaking text) (prepared.map Branch.ofPrepared) state =
      ⟨[.logged (Branch.runningEntry rule call)], state, .error text⟩ := by
  induction prepared with
  | nil =>
      simp at fires
  | cons first rest ih =>
      rcases first with ⟨name, result⟩
      cases result with
      | error fault =>
          have hrest : rest.findSome? Prepared.firing? = some (rule, call) := by
            simpa [List.findSome?_cons, Prepared.firing?, Prepared.call?] using fires
          simp [round, Branch.advance, Branch.ofPrepared, ih hrest, Except.map]
      | ok call? =>
          cases call? with
          | none =>
              have hrest : rest.findSome? Prepared.firing? = some (rule, call) := by
                simpa [List.findSome?_cons, Prepared.firing?, Prepared.call?] using fires
              simp [round, Branch.advance, Branch.ofPrepared, ih hrest, Except.map]
          | some own =>
              have hown : name = rule ∧ own = call := by
                simpa [List.findSome?_cons, Prepared.firing?, Prepared.call?] using fires
              simp [round, Branch.advance, Branch.ofPrepared, hown]

theorem evaluate_breaking (api : Api σ) (text : String) (patience : Patience)
    {prepared : List Prepared} {rule : String} {call : Call}
    (fires : prepared.findSome? Prepared.firing? = some (rule, call)) (state : σ) :
    evaluate api (.breaking text) patience prepared state =
      ⟨.unwound text, [.logged (Branch.runningEntry rule call)], state⟩ := by
  simp [evaluate, round_breaking api text fires]

end Breakdown

end EventRules
