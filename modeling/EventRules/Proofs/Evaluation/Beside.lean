import Mathlib.Data.List.InsertIdx
import EventRules.Proofs.Evaluation.History

/-!
# Beside — a rule that has failed early, beside the others

A rule that fails before it begins a call has a branch that does nothing.  Put in among other branches,
it adds its own failure to the verdict and changes nothing else, whatever the service and the log do.

* `Branch.IsFaulted` — such a branch; `Verdict.Adds` — the verdict with its failure;
* `evaluate_insertIdx` — the evaluation with the branch and the one without it;
* `History.traceOf_beside`, `History.result?_beside` — every other branch goes its way as before.
-/

namespace EventRules

/-- A branch that only has to fail, or has done so. -/
inductive Branch.IsFaulted (failure : Failure) : Branch → Prop
  | ready : IsFaulted failure ⟨failure.rule, .ready (.error failure.fault)⟩
  | finished : IsFaulted failure ⟨failure.rule, .finished (.error failure.fault)⟩

/-- The branch of a rule that has failed. -/
def Failure.branch (failure : Failure) : Branch := ⟨failure.rule, .finished (.error failure.fault)⟩

theorem Failure.branch_isFaulted (failure : Failure) : failure.branch.IsFaulted failure :=
  .finished

/-- A verdict, and the same with one more failure if it lists failures at all. -/
inductive Verdict.Adds (failure : Failure) : Verdict → Verdict → Prop
  | settled {earlier later : List Failure} :
      Adds failure (.settled (earlier ++ later)) (.settled (earlier ++ failure :: later))
  | hung : Adds failure .hung .hung
  | unwound {text : String} : Adds failure (.unwound text) (.unwound text)

/-- The place of a branch once another one is put in at some place. -/
def placeBeside (place n : Nat) : Nat := if n < place then n else n + 1

theorem placeBeside_zero (n : Nat) : placeBeside 0 n = n + 1 := by
  simp [placeBeside]

theorem placeBeside_succ_zero (place : Nat) : placeBeside (place + 1) 0 = 0 := by
  simp [placeBeside]

theorem placeBeside_succ_succ (place n : Nat) :
    placeBeside (place + 1) (n + 1) = placeBeside place n + 1 := by
  by_cases h : n < place <;> simp [placeBeside, h]

/-- The parts of a round without a branch and with it. -/
structure PartsBeside (failure : Failure) (place : Nat) (apart beside : List Part) : Prop where
  others : ∀ n : Nat, beside[placeBeside place n]? = apart[n]?
  own : ∀ part, beside[place]? = some part → part = ⟨[], .ok failure.branch⟩

/-! ## One round -/

section Rounds

variable {σ : Type} (api : Api σ) (sink : LogSink) {failure : Failure} {branch : Branch}

theorem Branch.IsFaulted.advance (faulted : branch.IsFaulted failure) (state : σ) :
    branch.advance api sink state = ⟨[], state, .ok failure.branch⟩ := by
  cases faulted <;> rfl

theorem round_insertIdx (faulted : branch.IsFaulted failure) (branches : List Branch)
    (place : Nat) (state : σ) :
    round api sink (branches.insertIdx place branch) state =
      let made := round api sink branches state
      ⟨made.occurrences, made.state,
        made.next.map fun next => next.insertIdx place failure.branch⟩ := by
  induction place generalizing branches state with
  | zero =>
      cases hnext : (round api sink branches state).next <;>
        simp [round, faulted.advance, hnext, Except.map]
  | succ place ih =>
      cases branches with
      | nil =>
          rfl
      | cons first rest =>
          rw [List.insertIdx_succ_cons]
          cases hfirst : (first.advance api sink state).next with
          | error text =>
              simp [round, hfirst, Except.map]
          | ok next =>
              have hrest := ih rest (first.advance api sink state).state
              cases hnext : (round api sink rest (first.advance api sink state).state).next <;>
                simp [round, hfirst, hrest, hnext, Except.map]

theorem length_of_round {branches next : List Branch} {state : σ}
    (h : (round api sink branches state).next = .ok next) : next.length = branches.length := by
  induction branches generalizing next state with
  | nil =>
      cases h
      rfl
  | cons first rest ih =>
      cases hfirst : (first.advance api sink state).next with
      | error text =>
          simp [round, hfirst] at h
      | ok own =>
          cases hrest : (round api sink rest (first.advance api sink state).state).next with
          | error text =>
              simp [round, hfirst, hrest, Except.map] at h
          | ok others =>
              have hcons : own :: others = next := by
                simpa [round, hfirst, hrest, Except.map] using h
              rw [← hcons, List.length_cons, List.length_cons, ih hrest]

theorem parts_insertIdx (faulted : branch.IsFaulted failure) {branches : List Branch} {place : Nat}
    (hplace : place ≤ branches.length) (state : σ) :
    PartsBeside failure place (parts api sink branches state)
      (parts api sink (branches.insertIdx place branch) state) := by
  induction place generalizing branches state with
  | zero =>
      refine ⟨fun n => ?_, fun part hpart => ?_⟩
      · simp [parts, faulted.advance, placeBeside_zero]
      · simpa [parts, faulted.advance] using hpart.symm
  | succ place ih =>
      cases branches with
      | nil =>
          cases hplace
      | cons first rest =>
          rw [List.insertIdx_succ_cons]
          cases hfirst : (first.advance api sink state).next with
          | error text =>
              -- the round breaks off before the place is reached
              refine ⟨fun n => ?_, fun part hpart => ?_⟩
              · cases n with
                | zero =>
                    simp [parts, hfirst, placeBeside_succ_zero]
                | succ n =>
                    simp [parts, hfirst, placeBeside_succ_succ]
              · simp [parts, hfirst] at hpart
          | ok next =>
              obtain ⟨others, own⟩ := ih (Nat.le_of_succ_le_succ hplace)
                (first.advance api sink state).state
              refine ⟨fun n => ?_, fun part hpart => ?_⟩
              · cases n with
                | zero =>
                    simp [parts, hfirst, placeBeside_succ_zero]
                | succ n =>
                    simpa [parts, hfirst, placeBeside_succ_succ] using others n
              · exact own part (by simpa [parts, hfirst] using hpart)

end Rounds

/-! ## All rounds -/

section Runs

variable {σ : Type} (api : Api σ) (sink : LogSink) (failure : Failure)

theorem all_isFinished_insertIdx (branches : List Branch) (place : Nat) :
    (branches.insertIdx place failure.branch).all Branch.isFinished =
      branches.all Branch.isFinished := by
  induction place generalizing branches with
  | zero =>
      simp [Failure.branch, Branch.isFinished]
  | succ place ih =>
      cases branches with
      | nil =>
          rfl
      | cons first rest =>
          simp [ih rest]

theorem filterMap_failure?_insertIdx {branches : List Branch} {place : Nat}
    (hplace : place ≤ branches.length) :
    ∃ earlier later, branches.filterMap Branch.failure? = earlier ++ later ∧
      (branches.insertIdx place failure.branch).filterMap Branch.failure? =
        earlier ++ failure :: later := by
  induction place generalizing branches with
  | zero =>
      exact ⟨[], branches.filterMap Branch.failure?, rfl, rfl⟩
  | succ place ih =>
      cases branches with
      | nil =>
          cases hplace
      | cons first rest =>
          obtain ⟨earlier, later, hapart, hbeside⟩ := ih (Nat.le_of_succ_le_succ hplace)
          refine ⟨first.failure?.toList ++ earlier, later, ?_, ?_⟩
          · rw [List.filterMap_cons, hapart]
            cases first.failure? <;> rfl
          · rw [List.insertIdx_succ_cons, List.filterMap_cons, hbeside]
            cases first.failure? <;> rfl

theorem foldl_max_insertIdx_zero (numbers : List Nat) (place start : Nat) :
    (numbers.insertIdx place 0).foldl max start = numbers.foldl max start := by
  induction place generalizing numbers start with
  | zero =>
      simp
  | succ place ih =>
      cases numbers with
      | nil =>
          rfl
      | cons first rest =>
          exact ih rest (max start first)

theorem Patience.afterFirst_insertIdx (patience : Patience) (branches : List Branch)
    (place : Nat) :
    patience.afterFirst (branches.insertIdx place failure.branch) =
      patience.afterFirst branches := by
  cases patience with
  | rounds limit =>
      rfl
  | unlimited =>
      have hzero : failure.branch.roundsLeft = 0 := rfl
      rw [afterFirst, List.map_insertIdx, hzero, foldl_max_insertIdx_zero, afterFirst]

/-- Evaluations without a branch that has failed and with it. -/
structure EvaluationBeside (apart beside : Evaluation σ) : Prop where
  occurrences : beside.occurrences = apart.occurrences
  state : beside.state = apart.state
  verdict : Verdict.Adds failure apart.verdict beside.verdict

theorem settle_insertIdx (rounds : Nat) {branches : List Branch} {place : Nat}
    (hplace : place ≤ branches.length) (state : σ) :
    EvaluationBeside failure (settle api sink rounds branches state)
      (settle api sink rounds (branches.insertIdx place failure.branch) state) := by
  induction rounds generalizing branches state with
  | zero =>
      rw [settle, settle, all_isFinished_insertIdx]
      cases branches.all Branch.isFinished with
      | true =>
          obtain ⟨earlier, later, hapart, hbeside⟩ :=
            filterMap_failure?_insertIdx failure hplace
          refine ⟨rfl, rfl, ?_⟩
          simp only [if_true, hapart, hbeside]
          exact .settled
      | false =>
          exact ⟨rfl, rfl, .hung⟩
  | succ left ih =>
      rw [settle, settle, all_isFinished_insertIdx]
      cases branches.all Branch.isFinished with
      | true =>
          obtain ⟨earlier, later, hapart, hbeside⟩ :=
            filterMap_failure?_insertIdx failure hplace
          refine ⟨rfl, rfl, ?_⟩
          simp only [if_true, hapart, hbeside]
          exact .settled
      | false =>
          have hround := round_insertIdx api sink failure.branch_isFaulted branches place state
          simp only [hround, Bool.false_eq_true, if_false]
          cases hnext : (round api sink branches state).next with
          | error text =>
              exact ⟨rfl, rfl, .unwound⟩
          | ok next =>
              have hle : place ≤ next.length := by
                rwa [length_of_round api sink hnext]
              obtain ⟨hoccurrences, hstate, hverdict⟩ :=
                ih hle (round api sink branches state).state
              exact ⟨by simp only [Except.map, hoccurrences], hstate, hverdict⟩

theorem settleHistory_insertIdx (rounds : Nat) {branches : List Branch} {place : Nat}
    (hplace : place ≤ branches.length) (state : σ) :
    List.Forall₂ (PartsBeside failure place) (settleHistory api sink rounds branches state)
      (settleHistory api sink rounds (branches.insertIdx place failure.branch) state) := by
  induction rounds generalizing branches state with
  | zero =>
      rw [settleHistory, settleHistory, all_isFinished_insertIdx]
      cases branches.all Branch.isFinished <;> exact .nil
  | succ left ih =>
      rw [settleHistory, settleHistory, all_isFinished_insertIdx]
      cases branches.all Branch.isFinished with
      | true =>
          exact .nil
      | false =>
          have hround := round_insertIdx api sink failure.branch_isFaulted branches place state
          simp only [hround, Bool.false_eq_true, if_false]
          refine .cons (parts_insertIdx api sink failure.branch_isFaulted hplace state) ?_
          cases hnext : (round api sink branches state).next with
          | error text =>
              exact .nil
          | ok next =>
              have hle : place ≤ next.length := by
                rwa [length_of_round api sink hnext]
              exact ih hle (round api sink branches state).state

end Runs

/-! ## Whole evaluations -/

section Evaluations

variable {σ : Type} (api : Api σ) (sink : LogSink) (patience : Patience)

theorem ofPrepared_isFaulted (rule : String) (fault : RuleFault) :
    (Branch.ofPrepared ⟨rule, .error fault⟩).IsFaulted ⟨rule, fault⟩ :=
  .ready

/-- A rule that fails early adds its failure, and nothing else is changed. -/
theorem evaluate_insertIdx {prepared : List Prepared} {place : Nat}
    (hplace : place ≤ prepared.length) (rule : String) (fault : RuleFault) (state : σ) :
    EvaluationBeside ⟨rule, fault⟩ (evaluate api sink patience prepared state)
      (evaluate api sink patience (prepared.insertIdx place ⟨rule, .error fault⟩) state) := by
  simp only [evaluate, List.map_insertIdx,
    round_insertIdx api sink (ofPrepared_isFaulted rule fault)]
  cases hnext : (round api sink (prepared.map Branch.ofPrepared) state).next with
  | error text =>
      exact ⟨rfl, rfl, .unwound⟩
  | ok next =>
      have hle : place ≤ next.length := by
        rwa [length_of_round api sink hnext, List.length_map]
      simp only [Except.map, Patience.afterFirst_insertIdx]
      obtain ⟨hoccurrences, hstate, hverdict⟩ :=
        settle_insertIdx api sink ⟨rule, fault⟩ (patience.afterFirst next) hle
          (round api sink (prepared.map Branch.ofPrepared) state).state
      exact ⟨by simp only [hoccurrences], hstate, hverdict⟩

theorem history_insertIdx {prepared : List Prepared} {place : Nat}
    (hplace : place ≤ prepared.length) (rule : String) (fault : RuleFault) (state : σ) :
    List.Forall₂ (PartsBeside ⟨rule, fault⟩ place) (history api sink patience prepared state)
      (history api sink patience (prepared.insertIdx place ⟨rule, .error fault⟩) state) := by
  have faulted := ofPrepared_isFaulted rule fault
  have hbranches : place ≤ (prepared.map Branch.ofPrepared).length := by
    rwa [List.length_map]
  simp only [history, List.map_insertIdx, round_insertIdx api sink faulted]
  refine .cons (parts_insertIdx api sink faulted hbranches state) ?_
  cases hnext : (round api sink (prepared.map Branch.ofPrepared) state).next with
  | error text =>
      exact .nil
  | ok next =>
      have hle : place ≤ next.length := by
        rwa [length_of_round api sink hnext]
      simp only [Except.map, Patience.afterFirst_insertIdx]
      exact settleHistory_insertIdx api sink ⟨rule, fault⟩ (patience.afterFirst next) hle
        (round api sink (prepared.map Branch.ofPrepared) state).state

end Evaluations

/-! ## Other branches -/

namespace History

variable {failure : Failure} {place : Nat} {apart beside : History}

theorem traceFrom_beside (h : List.Forall₂ (PartsBeside failure place) apart beside)
    (n first : Nat) :
    ((beside.zipIdx first).flatMap fun (parts, round) =>
      (parts[placeBeside place n]?.toList.flatMap Part.occurrences).map
        fun occurrence => (round, occurrence)) =
    (apart.zipIdx first).flatMap fun (parts, round) =>
      (parts[n]?.toList.flatMap Part.occurrences).map
        fun occurrence => (round, occurrence) := by
  induction h generalizing first with
  | nil =>
      rfl
  | cons hparts _ ih =>
      simp only [List.zipIdx_cons, List.flatMap_cons, hparts.others n, ih (first + 1)]

theorem traceOf_beside (h : List.Forall₂ (PartsBeside failure place) apart beside) (n : Nat) :
    traceOf beside (placeBeside place n) = traceOf apart n :=
  traceFrom_beside h n 1

theorem traceFrom_faulted (h : List.Forall₂ (PartsBeside failure place) apart beside)
    (first : Nat) :
    ((beside.zipIdx first).flatMap fun (parts, round) =>
      (parts[place]?.toList.flatMap Part.occurrences).map
        fun occurrence => (round, occurrence)) = [] := by
  induction h generalizing first with
  | nil =>
      rfl
  | @cons _ parts _ _ hparts _ ih =>
      cases hpart : parts[place]? with
      | none =>
          simp [hpart, ih (first + 1)]
      | some part =>
          simp [hpart, hparts.own part hpart, ih (first + 1)]

/-- The branch that has failed is seen to do nothing. -/
theorem traceOf_faulted (h : List.Forall₂ (PartsBeside failure place) apart beside) :
    traceOf beside place = [] :=
  traceFrom_faulted h 1

theorem result?_beside (h : List.Forall₂ (PartsBeside failure place) apart beside) (n round : Nat) :
    result? beside (placeBeside place n) round = result? apart n round := by
  cases round with
  | zero =>
      rfl
  | succ round =>
      have hround : ∀ {apart beside : History} (round : Nat),
          List.Forall₂ (PartsBeside failure place) apart beside →
          (beside[round]?.bind fun parts => parts[placeBeside place n]?) =
            apart[round]?.bind fun parts => parts[n]? := by
        intro apart beside round h
        induction h generalizing round with
        | nil =>
            rfl
        | cons hparts _ ih =>
            cases round with
            | zero =>
                exact hparts.others n
            | succ round =>
                exact ih round
      simp only [result?, Option.bind_eq_bind, ← Option.bind_assoc, hround round h]

end History

end EventRules
