import EventRules.Evaluation.Reaction
import EventRules.Proofs.Evaluation.Run

/-!
# History — who did what in which round

The trace of an evaluation does not say to which rule an occurrence belongs, nor in which round it was
seen.  A *history* does: it has one list for each round, with one part for each branch that had its turn.

* `history` — the rounds of an evaluation; `evaluate_occurrences` — together they are its trace;
* `History.traceOf`, `History.result?` — what can be seen of one branch, and what it finishes with;
* `Track.Takes` — how many rounds tracks take: as many as the slowest of them;
* `history_steady` — the history of an evaluation with a steady log, in terms of its tracks.
-/

namespace EventRules

/-- What one branch does in one round. -/
structure Part where
  occurrences : List Occurrence
  /-- The branch after the round, or the text with which the log broke down. -/
  next : Except String Branch

/-- What a branch has finished with, if it has finished. -/
def Branch.result? (branch : Branch) : Option (Except RuleFault Unit) :=
  match branch.stage with
  | .finished result => some result
  | _ => none

/-- The calls that begin in a part. -/
def Part.calls (part : Part) : List Call := part.occurrences.filterMap Occurrence.begun?

/-- The rounds of an evaluation, each with the parts of its branches in the order of the table. -/
abbrev History := List (List Part)

section Histories

variable {σ : Type}

/-- The parts of one round, up to a breakdown of the log. -/
def parts (api : Api σ) (sink : LogSink) : List Branch → σ → List Part
  | [], _ => []
  | branch :: rest, state =>
      let first := branch.advance api sink state
      ⟨first.occurrences, first.next⟩ ::
        match first.next with
        | .error _ => []
        | .ok _ => parts api sink rest first.state

/-- The rounds that follow the first, for at most so many. -/
def settleHistory (api : Api σ) (sink : LogSink) : (rounds : Nat) → List Branch → σ → History
  | rounds, branches, state =>
      if branches.all Branch.isFinished then []
      else
        match rounds with
        | 0 => []
        | left + 1 =>
            let made := round api sink branches state
            parts api sink branches state ::
              match made.next with
              | .error _ => []
              | .ok next => settleHistory api sink left next made.state

def history (api : Api σ) (sink : LogSink) (patience : Patience) (prepared : List Prepared)
    (state : σ) : History :=
  let branches := prepared.map Branch.ofPrepared
  let first := round api sink branches state
  parts api sink branches state ::
    match first.next with
    | .error _ => []
    | .ok next => settleHistory api sink (patience.afterFirst next) next first.state

def Table.history (table : Table) (api : Api σ) (sink : LogSink) (patience : Patience)
    (event : HostEvent) (state : σ) : History :=
  EventRules.history api sink patience (table.prepare event) state

end Histories

namespace History

def occurrences (history : History) : List Occurrence :=
  history.flatMap fun parts => parts.flatMap Part.occurrences

/-- What can be seen of the branch in one place, each occurrence with its round. -/
def traceOf (history : History) (place : Nat) : List (Nat × Occurrence) :=
  (history.zipIdx 1).flatMap fun (parts, round) =>
    (parts[place]?.toList.flatMap Part.occurrences).map fun occurrence => (round, occurrence)

/-- What the branch in one place has finished with after a round, if it has finished. -/
def result? (history : History) (place : Nat) : (round : Nat) → Option (Except RuleFault Unit)
  | 0 => none
  | n + 1 => do
      let part ← (← history[n]?)[place]?
      match part.next with
      | .ok branch => branch.result?
      | .error _ => none

end History

/-! ## A history tells the evaluation -/

section Tie

variable {σ : Type}

theorem round_occurrences (api : Api σ) (sink : LogSink) (branches : List Branch) (state : σ) :
    (round api sink branches state).occurrences =
      (parts api sink branches state).flatMap Part.occurrences := by
  induction branches generalizing state with
  | nil =>
      rfl
  | cons first rest ih =>
      cases hnext : (first.advance api sink state).next with
      | error text =>
          simp [round, parts, hnext]
      | ok next =>
          simp [round, parts, hnext, ih]

theorem settle_occurrences (api : Api σ) (sink : LogSink) (rounds : Nat)
    (branches : List Branch) (state : σ) :
    (settle api sink rounds branches state).occurrences =
      (settleHistory api sink rounds branches state).occurrences := by
  induction rounds generalizing branches state with
  | zero =>
      rw [settle, settleHistory]
      cases branches.all Branch.isFinished <;> rfl
  | succ left ih =>
      rw [settle, settleHistory]
      cases branches.all Branch.isFinished with
      | true =>
          rfl
      | false =>
          cases hnext : (round api sink branches state).next with
          | error text =>
              simp [hnext, History.occurrences, round_occurrences]
          | ok next =>
              have hrest := ih next (round api sink branches state).state
              simp only [History.occurrences] at hrest
              simp [hnext, History.occurrences, round_occurrences, hrest]

theorem evaluate_occurrences (api : Api σ) (sink : LogSink) (patience : Patience)
    (prepared : List Prepared) (state : σ) :
    (evaluate api sink patience prepared state).occurrences =
      (history api sink patience prepared state).occurrences := by
  cases hnext : (round api sink (prepared.map Branch.ofPrepared) state).next with
  | error text =>
      simp [evaluate, history, hnext, History.occurrences, round_occurrences]
  | ok next =>
      have hrest := settle_occurrences api sink (patience.afterFirst next) next
        (round api sink (prepared.map Branch.ofPrepared) state).state
      simp only [History.occurrences] at hrest
      simp [evaluate, history, hnext, History.occurrences, round_occurrences, hrest]

end Tie

/-! ## The history of tracks -/

namespace Track

def part (service : String) (round : Nat) (track : Track) : Part :=
  ⟨track.seenIn service round, .ok (track.branchAfter round)⟩

/-- So many rounds of these tracks, beginning with one of them. -/
def historyFrom (service : String) (first count : Nat) (branches : List Track) : History :=
  (List.range' first count).map fun round => branches.map (part service round)

theorem historyFrom_succ (service : String) (first count : Nat) (branches : List Track) :
    historyFrom service first (count + 1) branches =
      branches.map (part service first) :: historyFrom service (first + 1) count branches := by
  rw [historyFrom, List.range'_succ, List.map_cons, historyFrom]

end Track

/-! ## The number of rounds -/

namespace Track

/-- An evaluation of these tracks takes so many rounds: it goes on until all have finished, but not
longer than it may. -/
structure Takes (patience : Patience) (branches : List Track) (count : Nat) : Prop where
  one_le : 1 ≤ count
  le_last : count ≤ patience.lastRound branches
  stops : count < patience.lastRound branches → allFinished count branches = true
  goesOn : ∀ round, 1 ≤ round → round < count → allFinished round branches = false

namespace Takes

variable {patience : Patience} {branches : List Track} {count : Nat}

/-- A branch finishes on the way if and only if the rounds that it takes are allowed. -/
theorem le_iff (takes : Takes patience branches count) {track : Track} (htrack : track ∈ branches)
    {last : Nat} (hlast : track.lastRound? = some last) :
    last ≤ count ↔ patience.allows last = true := by
  rw [← patience.le_lastRound_iff htrack hlast]
  constructor
  · intro hle
    exact Nat.le_trans hle takes.le_last
  · intro hle
    rcases Nat.lt_or_ge count (patience.lastRound branches) with hless | hmore
    · obtain ⟨n, rfl⟩ : ∃ n, count = n + 1 := Nat.exists_eq_add_of_le' takes.one_le
      have hall := takes.stops hless
      rw [allFinished, List.all_eq_true] at hall
      obtain ⟨own, hown, hfinished⟩ := (isFinished_branchAfter track n).1 (hall track htrack)
      have : own = last := Option.some.inj (hown.symm.trans hlast)
      exact this ▸ hfinished
    · exact Nat.le_trans hle hmore

end Takes
end Track

/-! ## With a steady log -/

section Steady

variable {σ : Type}

theorem parts_ofPrepared (api : Api σ) (prepared : List Prepared) (state : σ) :
    parts api .steady (prepared.map Branch.ofPrepared) state =
      (tracks api prepared state).map (Track.part api.name 1) := by
  induction prepared generalizing state with
  | nil =>
      rfl
  | cons first rest ih =>
      simp [parts, tracks, Track.part, Branch.advance_ofPrepared, ih]

theorem parts_branchAfter (api : Api σ) (sink : LogSink) (branches : List Track) (n : Nat)
    (state : σ) :
    parts api sink (branches.map (Track.branchAfter (n + 1))) state =
      branches.map (Track.part api.name (n + 2)) := by
  induction branches with
  | nil =>
      rfl
  | cons first rest ih =>
      simp [parts, Track.part, Branch.advance_branchAfter, ih]

/-- The rounds after a stand: they stop with the first after which all branches have finished. -/
theorem settleHistory_branchAfter (api : Api σ) (sink : LogSink) (branches : List Track)
    (left n : Nat) (state : σ) :
    ∃ count, count ≤ left ∧
      settleHistory api sink left (branches.map (Track.branchAfter (n + 1))) state =
        Track.historyFrom api.name (n + 2) count branches ∧
      (count < left → Track.allFinished (n + 1 + count) branches = true) ∧
      ∀ earlier, earlier < count → Track.allFinished (n + 1 + earlier) branches = false := by
  -- the number of rounds is found on the way: none if all have finished, else one more than later
  induction left generalizing n with
  | zero =>
      refine ⟨0, Nat.le_refl 0, ?_, by simp, by simp⟩
      rw [settleHistory, Track.all_isFinished_map]
      cases Track.allFinished (n + 1) branches <;> rfl
  | succ left ih =>
      cases hall : Track.allFinished (n + 1) branches with
      | true =>
          refine ⟨0, Nat.zero_le _, ?_, fun _ => hall, by simp⟩
          rw [settleHistory, Track.all_isFinished_map, hall]
          rfl
      | false =>
          obtain ⟨count, hle, hhistory, hstop, hearlier⟩ := ih (n + 1)
          refine ⟨count + 1, Nat.succ_le_succ hle, ?_, ?_, ?_⟩
          · rw [settleHistory, Track.all_isFinished_map, hall]
            simp [round_branchAfter, parts_branchAfter, hhistory, Track.historyFrom_succ]
          · intro hless
            have := hstop (by omega)
            rwa [show n + 1 + (count + 1) = n + 1 + 1 + count by omega]
          · intro earlier hless
            cases earlier with
            | zero =>
                exact hall
            | succ earlier =>
                have := hearlier earlier (by omega)
                rwa [show n + 1 + (earlier + 1) = n + 1 + 1 + earlier by omega]

/-- The history of an evaluation with a steady log, up to the round in which it ends. -/
theorem history_steady (api : Api σ) (patience : Patience) (prepared : List Prepared) (state : σ) :
    ∃ count, Track.Takes patience (tracks api prepared state) count ∧
      history api .steady patience prepared state =
        Track.historyFrom api.name 1 count (tracks api prepared state) := by
  obtain ⟨count, hle, hhistory, hstop, hearlier⟩ :=
    settleHistory_branchAfter api .steady (tracks api prepared state)
      (patience.afterFirst ((tracks api prepared state).map (Track.branchAfter 1))) 0
      (stateAfterAll api prepared state)
  rw [Nat.zero_add] at hhistory
  refine ⟨count + 1, ⟨Nat.le_add_left 1 count, Nat.succ_le_succ hle, ?_, ?_⟩, ?_⟩
  · intro hless
    have := hstop (Nat.lt_of_succ_lt_succ hless)
    rwa [show count + 1 = 0 + 1 + count by omega]
  · intro round hround hless
    have := hearlier (round - 1) (by omega)
    rwa [show round = 0 + 1 + (round - 1) by omega]
  · simp only [history, round_ofPrepared, parts_ofPrepared]
    rw [hhistory, Track.historyFrom_succ]

end Steady

end EventRules
