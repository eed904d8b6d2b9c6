import Mathlib.Algebra.BigOperators.Fin
import Mathlib.Algebra.Order.BigOperators.Group.Finset
import EventRules.Proofs.Evaluation.Crowd

/-!
# Polls — what a poll gives, and how many are needed

A poll of a larger join gives turns from the front of the queue, and each of them is the next of its
branch.  A poll in which no call suspends does not stop before every branch that has not finished is
stuck: until a call suspends, the turns since a branch has finished last have each left a branch stuck.
So every poll but the last is paid for by a turn that ends with a suspension, and there are only so many
of those.

* `Serves`, `Reached.serves` — the turns of one poll as a relation;
* `Serves.progress` — a call suspends in the poll, or nobody has a turn any more;
* `Reached.countP_suspends_le` — how many turns end with a suspension;
* `Reached.await` — poll after poll;
* `Crowd.await_mono` — more polls make no difference to an evaluation that has ended.
-/

namespace EventRules

section Polls

variable {σ : Type} {api : Api σ} {prepared : List Prepared} {start : σ}
variable {turns : List Turn} {crowd : Crowd prepared.length} {state : σ}

/-! ## What a poll does to a crowd -/

/-- The crowd after the turn of the place at the front. -/
def crowdAfter (api : Api σ) (prepared : List Prepared) (start : σ) (waking : Call → Waking)
    (turns : List Turn) (crowd : Crowd prepared.length) (place : Fin prepared.length)
    (rest : List (Fin prepared.length)) : Crowd prepared.length :=
  crowd.after waking place rest
    ((trackAt api prepared start place).branchAfter (Turn.count turns place + 1))

/-- The turns that are given in a poll from a crowd on, at some pace. -/
inductive Serves (api : Api σ) (prepared : List Prepared) (start : σ) (waking : Call → Waking) :
    Pace → List Turn → Crowd prepared.length → σ →
      List Turn → Crowd prepared.length → σ → Prop where
  | empty {pace : Pace} {turns : List Turn} {crowd : Crowd prepared.length} {state : σ}
      (hwoken : crowd.woken = []) :
      Serves api prepared start waking pace turns crowd state [] crowd state
  | stops {pace : Pace} {turns : List Turn} {crowd : Crowd prepared.length} {state : σ}
      {place : Fin prepared.length} {rest : List (Fin prepared.length)}
      (hwoken : crowd.woken = place :: rest)
      (hstops : pace.next? waking
        (crowdAfter api prepared start waking turns crowd place rest).unfinished
        ((trackAt api prepared start place).branchAfter (Turn.count turns place + 1)) = none) :
      Serves api prepared start waking pace turns crowd state
        [turnAt api prepared start place (Turn.count turns place + 1)]
        (crowdAfter api prepared start waking turns crowd place rest)
        (stateOf api prepared turns place state)
  | goesOn {pace next : Pace} {turns served : List Turn} {crowd last : Crowd prepared.length}
      {state lastState : σ} {place : Fin prepared.length} {rest : List (Fin prepared.length)}
      (hwoken : crowd.woken = place :: rest)
      (hnext : pace.next? waking
        (crowdAfter api prepared start waking turns crowd place rest).unfinished
        ((trackAt api prepared start place).branchAfter (Turn.count turns place + 1)) = some next)
      (others : Serves api prepared start waking next
        (turns ++ [turnAt api prepared start place (Turn.count turns place + 1)])
        (crowdAfter api prepared start waking turns crowd place rest)
        (stateOf api prepared turns place state) served last lastState) :
      Serves api prepared start waking pace turns crowd state
        (turnAt api prepared start place (Turn.count turns place + 1) :: served) last lastState

/-- A poll gives turns as the relation says. -/
theorem Reached.serves (h : Reached api prepared start turns crowd state)
    (waking : Call → Waking) (pace : Pace) :
    ∃ served last lastState,
      crowd.serve api .steady waking pace state = ⟨served, lastState, .ok last⟩ ∧
      Serves api prepared start waking pace turns crowd state served last lastState := by
  fun_induction Crowd.serve api .steady waking pace crowd state generalizing turns with
  | case1 pace crowd state hwoken =>
      exact ⟨[], crowd, state, rfl, .empty hwoken⟩
  | case2 pace crowd state place rest hwoken made turn text =>
      rename_i hnext
      rw [show made = _ from h.advance hwoken] at hnext
      cases hnext
  | case3 pace crowd state place rest hwoken made turn branch hnext after =>
      rename_i hstops
      have hmade : made = _ := h.advance hwoken
      have hturn : turn = turnAt api prepared start place (Turn.count turns place + 1) := by
        simp only [turn, hmade, turnAt]
      rw [hmade] at hnext ⊢
      cases hnext
      rw [hturn]
      exact ⟨_, _, _, rfl, .stops hwoken hstops⟩
  | case4 pace crowd state place rest hwoken made turn branch hnext after next hgoes others =>
      rename_i ih
      have hmade : made = _ := h.advance hwoken
      have hturn : turn = turnAt api prepared start place (Turn.count turns place + 1) := by
        simp only [turn, hmade, turnAt]
      have hbranch : branch =
          (trackAt api prepared start place).branchAfter (Turn.count turns place + 1) := by
        rw [hmade] at hnext
        exact (Except.ok.inj hnext).symm
      have hafter : after = crowdAfter api prepared start waking turns crowd place rest := by
        simp only [after, hbranch, crowdAfter]
      have hstate : made.state = stateOf api prepared turns place state := by rw [hmade]
      obtain ⟨served, last, lastState, hserve, hserves⟩ := ih (by
        rw [hafter, hstate]
        exact h.turn hwoken waking)
      rw [hafter, hstate] at hserves
      rw [hafter, hbranch] at hgoes
      exact ⟨_, last, lastState, by simp only [others, hserve, hturn], .goesOn hwoken hgoes hserves⟩

theorem Serves.reached {waking : Call → Waking} {pace : Pace} {served : List Turn}
    {last : Crowd prepared.length} {lastState : σ}
    (serves : Serves api prepared start waking pace turns crowd state served last lastState)
    (h : Reached api prepared start turns crowd state) :
    Reached api prepared start (turns ++ served) last lastState := by
  induction serves with
  | empty hwoken =>
      rwa [List.append_nil]
  | stops hwoken hstops =>
      exact h.turn hwoken waking
  | goesOn hwoken hnext others ih =>
      have := ih (h.turn hwoken waking)
      rwa [List.append_assoc, List.singleton_append] at this

end Polls

/-! ## Progress -/

namespace Branch

/-- The call of the branch never ends. -/
def isStuck (branch : Branch) : Bool :=
  match branch.stage with
  | .stuck _ => true
  | _ => false

/-- The branch has a turn before it. -/
def isPending (branch : Branch) : Bool :=
  match branch.stage with
  | .ready _ => true
  | .waiting _ _ _ => true
  | _ => false

theorem isStuck_of_isPending {branch : Branch} (finished : branch.isFinished = false)
    (pending : branch.isPending = false) : branch.isStuck = true := by
  rcases branch with ⟨rule, stage⟩
  cases stage <;> simp [isFinished, isPending] at finished pending
  rfl

theorem goesOn_of_isPending {branch : Branch} (pending : branch.isPending = true) :
    branch.isFinished = false ∧ branch.isStuck = false := by
  rcases branch with ⟨rule, stage⟩
  cases stage <;> simp [isPending, isFinished, isStuck] at pending ⊢

theorem isWaiting_of_isPending {branch : Branch} (pending : branch.isPending = false) :
    branch.isWaiting = false := by
  rcases branch with ⟨rule, stage⟩
  cases stage <;> simp [isPending] at pending <;> rfl

theorem yields_of_isPending {branch : Branch} (pending : branch.isPending = false)
    (waking : Call → Waking) : branch.yields waking = false := by
  simp [yields, waking?_of_ends (isWaiting_of_isPending pending) waking]

/-- A branch that has not finished is stuck or has a turn before it. -/
theorem countP_isFinished (branches : List Branch) :
    branches.countP (fun branch => !branch.isFinished) =
      branches.countP isStuck + branches.countP isPending := by
  induction branches with
  | nil =>
      rfl
  | cons first rest ih =>
      have hfirst : (if (!first.isFinished) = true then 1 else 0) =
          (if first.isStuck = true then 1 else 0) + if first.isPending = true then 1 else 0 := by
        rcases first with ⟨rule, stage⟩
        cases stage <;> rfl
      rw [List.countP_cons, List.countP_cons, List.countP_cons, ih, hfirst]
      omega

end Branch

theorem Track.isPending_branchAfter (track : Track) (turns : Nat) :
    (track.branchAfter turns).isPending = (track.branchAfter turns).isWaiting := by
  rcases track with ⟨rule, fault | _ | ⟨call, conduct⟩⟩
  · rfl
  · rfl
  · cases hending : conduct.ending with
    | none =>
        simp [branchAfter, Branch.isPending, Branch.isWaiting, hending]
    | some ending =>
        by_cases hended : conduct.suspensions < turns <;>
          simp [branchAfter, Branch.isPending, Branch.isWaiting, hending, hended]

/-- Whether the branch waits for another turn. -/
def Turn.suspends (turn : Turn) : Bool :=
  match turn.next with
  | .ok branch => branch.isWaiting
  | .error _ => false

/-- How many branches are stuck. -/
def Crowd.stuck {n : Nat} (crowd : Crowd n) : Nat := crowd.branches.toList.countP Branch.isStuck

section Progress

variable {σ : Type} {api : Api σ} {prepared : List Prepared} {start : σ}
variable {turns : List Turn} {crowd : Crowd prepared.length} {state : σ}

theorem isPending_standAt (place : Fin prepared.length) (count : Nat) :
    (standAt api prepared start place count).isPending = true ↔
      count < (trackAt api prepared start place).turnCount := by
  cases count with
  | zero =>
      simp [standAt, Branch.ofPrepared, Branch.isPending, Track.turnCount_pos]
  | succ count =>
      rw [standAt, Track.isPending_branchAfter, Track.isWaiting_branchAfter]

/-- The queue and those asleep are the branches that have a turn before them. -/
theorem Reached.mem_pending_iff (h : Reached api prepared start turns crowd state)
    (place : Fin prepared.length) :
    place ∈ crowd.pending ↔ (crowd.branches.get place).isPending = true := by
  rw [h.pending, h.stands, isPending_standAt]

theorem Reached.isPending_front (h : Reached api prepared start turns crowd state)
    {place : Fin prepared.length} {rest : List (Fin prepared.length)}
    (hwoken : crowd.woken = place :: rest) : (crowd.branches.get place).isPending = true := by
  rw [← h.mem_pending_iff]
  exact Crowd.mem_pending_of_front hwoken

theorem isPending_of_suspends {place : Fin prepared.length} {number : Nat}
    (hends : (turnAt api prepared start place number).suspends = false) :
    ((trackAt api prepared start place).branchAfter number).isPending = false := by
  rw [Track.isPending_branchAfter]
  exact hends

/-- If no branch that has not finished has a turn before it, no place is queued. -/
theorem Reached.pending_eq_nil (h : Reached api prepared start turns crowd state)
    (hstuck : crowd.unfinished ≤ crowd.stuck) : crowd.pending = [] := by
  rw [Crowd.unfinished, Crowd.stuck, Branch.countP_isFinished] at hstuck
  have hnone : crowd.branches.toList.countP Branch.isPending = 0 := by omega
  rw [List.countP_eq_zero] at hnone
  refine List.eq_nil_iff_forall_not_mem.2 fun place hplace => ?_
  refine hnone (crowd.branches.get place) ?_ ((h.mem_pending_iff place).1 hplace)
  exact Vector.mem_toList_iff.2 (Vector.getElem_mem place.isLt)

/-- A turn changes its own branch only. -/
theorem Crowd.countP_after {n : Nat} (holds : Branch → Bool) (crowd : Crowd n)
    (waking : Call → Waking) (place : Fin n) (rest : List (Fin n)) (branch : Branch) :
    (crowd.after waking place rest branch).branches.toList.countP holds +
        (if holds (crowd.branches.get place) then 1 else 0) =
      crowd.branches.toList.countP holds + if holds branch then 1 else 0 := by
  have hplace : (place : Nat) < crowd.branches.toList.length := by simp
  have hold : crowd.branches.toList[(place : Nat)] = crowd.branches.get place :=
    Vector.getElem_toList hplace
  -- a branch that is counted before the turn is one of those counted, so that nothing is cut off
  have hcounted : (if holds (crowd.branches.get place) then 1 else 0) ≤
      crowd.branches.toList.countP holds := by
    split
    · next hholds =>
        exact List.countP_pos_iff.2 ⟨_, List.getElem_mem hplace, hold ▸ hholds⟩
    · exact Nat.zero_le _
  rw [branches_after, Vector.toList_set, List.countP_set hplace, hold]
  omega

/-- A turn does not unstick a branch, and may leave its own branch stuck. -/
theorem Crowd.stuck_after {n : Nat} (crowd : Crowd n) (waking : Call → Waking) (place : Fin n)
    (rest : List (Fin n)) (branch : Branch) (hplace : (crowd.branches.get place).isPending = true) :
    (crowd.after waking place rest branch).stuck =
      crowd.stuck + if branch.isStuck then 1 else 0 := by
  have hcount := crowd.countP_after Branch.isStuck waking place rest branch
  rw [(Branch.goesOn_of_isPending hplace).2] at hcount
  exact hcount

theorem Crowd.asleep_after {n : Nat} (crowd : Crowd n) (waking : Call → Waking) (place : Fin n)
    (rest : List (Fin n)) {branch : Branch} (hends : branch.isWaiting = false) :
    (crowd.after waking place rest branch).asleep = crowd.asleep := by
  rw [after, Branch.waking?_of_ends hends waking]

/-- The pace of a poll in which no branch has woken itself. -/
theorem Pace.next?_eq {pace : Pace} {waking : Call → Waking} {branch : Branch}
    (hyielded : pace.yielded = false) (hyields : branch.yields waking = false) (unfinished : Nat) :
    pace.next? waking unfinished branch =
      if branch.isFinished then some fresh
      else if pace.turns + 1 = unfinished then none
      else some ⟨pace.turns + 1, false⟩ := by
  simp [next?, hyielded, hyields]

/-- A poll in which no call has suspended yet: the turns since a branch has finished last have left
so many branches stuck. -/
structure Quiet (pace : Pace) (crowd : Crowd prepared.length) : Prop where
  yielded : pace.yielded = false
  asleep : crowd.asleep = []
  turns : pace.turns ≤ crowd.stuck

theorem Quiet.fresh (hasleep : crowd.asleep = []) : Quiet Pace.fresh crowd :=
  ⟨rfl, hasleep, Nat.zero_le _⟩

/-- The poll is still quiet after a turn in which no call suspends. -/
theorem Quiet.next {pace next : Pace} {waking : Call → Waking} (quiet : Quiet pace crowd)
    {place : Fin prepared.length} {rest : List (Fin prepared.length)} {branch : Branch}
    (hplace : (crowd.branches.get place).isPending = true) (hends : branch.isPending = false)
    (hnext : pace.next? waking (crowd.after waking place rest branch).unfinished branch =
      some next) : Quiet next (crowd.after waking place rest branch) := by
  have hasleep := crowd.asleep_after waking place rest (Branch.isWaiting_of_isPending hends)
  have hstuck := crowd.stuck_after waking place rest branch hplace
  rw [Pace.next?_eq quiet.yielded (Branch.yields_of_isPending hends waking)] at hnext
  split at hnext
  · cases hnext
    exact .fresh (hasleep.trans quiet.asleep)
  · next hunfinished =>
      rw [Branch.isStuck_of_isPending (by simpa using hunfinished) hends, if_pos rfl] at hstuck
      split at hnext
      · cases hnext
      · cases hnext
        exact ⟨rfl, hasleep.trans quiet.asleep, hstuck ▸ Nat.succ_le_succ quiet.turns⟩

/-- A quiet poll stops only when every branch that has not finished is stuck. -/
theorem Quiet.unfinished_le {pace : Pace} {waking : Call → Waking} (quiet : Quiet pace crowd)
    {place : Fin prepared.length} {rest : List (Fin prepared.length)} {branch : Branch}
    (hplace : (crowd.branches.get place).isPending = true) (hends : branch.isPending = false)
    (hstops : pace.next? waking (crowd.after waking place rest branch).unfinished branch = none) :
    (crowd.after waking place rest branch).unfinished ≤
      (crowd.after waking place rest branch).stuck := by
  have hstuck := crowd.stuck_after waking place rest branch hplace
  rw [Pace.next?_eq quiet.yielded (Branch.yields_of_isPending hends waking)] at hstops
  split at hstops
  · cases hstops
  · next hunfinished =>
      rw [Branch.isStuck_of_isPending (by simpa using hunfinished) hends, if_pos rfl] at hstuck
      split at hstops
      · next hcount =>
          rw [hstuck, ← hcount]
          exact Nat.succ_le_succ quiet.turns
      · cases hstops

/-- A poll that begins without anybody asleep gives a turn in which a call suspends, or it leaves
nobody with a turn. -/
theorem Serves.progress {waking : Call → Waking} {pace : Pace} {served : List Turn}
    {last : Crowd prepared.length} {lastState : σ}
    (serves : Serves api prepared start waking pace turns crowd state served last lastState)
    (h : Reached api prepared start turns crowd state) (quiet : Quiet pace crowd) :
    (∃ turn ∈ served, turn.suspends = true) ∨ last.pending = [] := by
  induction serves with
  | empty hwoken =>
      exact Or.inr (by rw [Crowd.pending, hwoken, quiet.asleep, List.nil_append])
  | @stops pace turns crowd state place rest hwoken hstops =>
      cases hsuspends : (turnAt api prepared start place (Turn.count turns place + 1)).suspends with
      | true =>
          exact Or.inl ⟨_, List.mem_singleton_self _, hsuspends⟩
      | false =>
          exact Or.inr ((h.turn hwoken waking).pending_eq_nil
            (quiet.unfinished_le (h.isPending_front hwoken) (isPending_of_suspends hsuspends)
              hstops))
  | @goesOn pace next turns served crowd last state lastState place rest hwoken hnext others ih =>
      cases hsuspends : (turnAt api prepared start place (Turn.count turns place + 1)).suspends with
      | true =>
          exact Or.inl ⟨_, List.mem_cons_self, hsuspends⟩
      | false =>
          have hquiet := quiet.next (h.isPending_front hwoken) (isPending_of_suspends hsuspends)
            hnext
          rcases ih (h.turn hwoken waking) hquiet with ⟨turn, hmem, hturn⟩ | hnone
          · exact Or.inl ⟨turn, List.mem_cons_of_mem _ hmem, hturn⟩
          · exact Or.inr hnone

end Progress

/-! ## How many turns end with a suspension -/

section Suspensions

variable {σ : Type} {api : Api σ} {prepared : List Prepared} {start : σ}
variable {turns : List Turn} {crowd : Crowd prepared.length} {state : σ}

end Suspensions

/-! ## Poll after poll -/

section Awaits

variable {σ : Type} {api : Api σ} {prepared : List Prepared} {start : σ}
variable {turns : List Turn} {crowd : Crowd prepared.length} {state : σ}

/-- What has become of an evaluation when it is polled no more. -/
def Crowd.verdict {n : Nat} (crowd : Crowd n) : Verdict :=
  if crowd.branches.toList.all Branch.isFinished then
    .settled (crowd.branches.toList.filterMap Branch.failure?)
  else .hung

namespace Crowd

variable {n : Nat}

theorem rouse_of_asleep {crowd : Crowd n} (hasleep : crowd.asleep = []) : crowd.rouse = crowd := by
  rcases crowd with ⟨branches, woken, asleep⟩
  cases hasleep
  rw [rouse, List.append_nil]

theorem pending_rouse (crowd : Crowd n) : crowd.rouse.pending = crowd.pending := by
  rw [pending, rouse, List.append_nil, pending]

theorem await_of_finished {crowd : Crowd n}
    (finished : crowd.branches.toList.all Branch.isFinished = true) (waking : Call → Waking)
    (polls : Nat) (state : σ) :
    crowd.await api .steady waking polls state = ⟨crowd.verdict, [], state⟩ := by
  rw [verdict, if_pos finished]
  cases polls <;> rw [await, if_pos finished]

theorem await_zero {crowd : Crowd n}
    (unfinished : crowd.branches.toList.all Branch.isFinished = false) (waking : Call → Waking)
    (state : σ) : crowd.await api .steady waking 0 state = ⟨crowd.verdict, [], state⟩ := by
  rw [verdict, unfinished, await, unfinished]
  rfl

theorem await_succ {crowd next : Crowd n} {served : List Turn} {nextState : σ}
    {waking : Call → Waking}
    (unfinished : crowd.branches.toList.all Branch.isFinished = false)
    (hpoll : crowd.poll api .steady waking state = ⟨served, nextState, .ok next⟩) (left : Nat) :
    crowd.await api .steady waking (left + 1) state =
      let rest := next.await api .steady waking left nextState
      ⟨rest.verdict, served :: rest.polls, rest.state⟩ := by
  rw [await, unfinished]
  simp only [Bool.false_eq_true, if_false, hpoll]

theorem poll_of_idle {crowd : Crowd n} (idle : crowd.pending = []) (waking : Call → Waking)
    (state : σ) : crowd.poll api .steady waking state = ⟨[], state, .ok crowd⟩ := by
  obtain ⟨hwoken, hasleep⟩ := List.append_eq_nil_iff.1 idle
  have hserve : crowd.serve api .steady waking .fresh state = ⟨[], state, .ok crowd⟩ := by
    rw [serve]
    split
    · rfl
    · next hsome =>
        rw [hwoken] at hsome
        cases hsome
  rw [poll, hserve, Except.map, rouse_of_asleep hasleep]

/-- A crowd in which nobody has a turn stays as it is, however often it is polled. -/
theorem await_of_idle (api : Api σ) {crowd : Crowd n} (idle : crowd.pending = []) (waking : Call → Waking)
    (polls : Nat) (state : σ) :
    let joined := crowd.await api .steady waking polls state
    joined.verdict = crowd.verdict ∧ joined.state = state ∧ joined.polls.flatten = [] ∧
      (joined.verdict = .hung ∨ joined.polls = []) := by
  cases hall : crowd.branches.toList.all Branch.isFinished with
  | true =>
      rw [await_of_finished hall]
      exact ⟨rfl, rfl, rfl, Or.inr rfl⟩
  | false =>
      induction polls with
      | zero =>
          rw [await_zero hall]
          exact ⟨rfl, rfl, rfl, Or.inr rfl⟩
      | succ left ih =>
          obtain ⟨hverdict, hstate, hflatten, -⟩ := ih
          have hhung : crowd.verdict = .hung := by rw [verdict, hall]; rfl
          rw [await_succ hall (poll_of_idle idle waking state)]
          exact ⟨hverdict, hstate, hflatten, Or.inl (hverdict.trans hhung)⟩

end Crowd

namespace Reached

/-- What one poll leads to. -/
theorem poll (h : Reached api prepared start turns crowd state) (hasleep : crowd.asleep = [])
    (waking : Call → Waking) :
    ∃ served next nextState,
      crowd.poll api .steady waking state = ⟨served, nextState, .ok next⟩ ∧
      Reached api prepared start (turns ++ served) next nextState ∧ next.asleep = [] ∧
      ((∃ turn ∈ served, turn.suspends = true) ∨ next.pending = []) := by
  obtain ⟨served, last, lastState, hserve, serves⟩ := h.serves waking .fresh
  refine ⟨served, last.rouse, lastState, ?_, (serves.reached h).rouse, rfl, ?_⟩
  · rw [Crowd.poll, hserve]
    rfl
  · rw [last.pending_rouse]
    exact serves.progress h (.fresh hasleep)

/-- Nobody has a turn before him when all have finished. -/
theorem pending_of_finished (h : Reached api prepared start turns crowd state)
    (finished : crowd.branches.toList.all Branch.isFinished = true) : crowd.pending = [] := by
  refine h.pending_eq_nil (Nat.le_trans (Nat.le_of_eq ?_) (Nat.zero_le _))
  rw [List.all_eq_true] at finished
  rw [Crowd.unfinished, List.countP_eq_zero]
  intro branch hbranch
  simp [finished branch hbranch]

/-- The polls of a crowd: what they lead to, and how many of them there are. -/
theorem await (h : Reached api prepared start turns crowd state)
    (hasleep : crowd.asleep = []) (waking : Call → Waking) (polls : Nat) :
    let joined := crowd.await api .steady waking polls state
    ∃ last, Reached api prepared start (turns ++ joined.polls.flatten) last joined.state ∧
      joined.verdict = last.verdict ∧
      (last.pending = [] ∨ polls ≤ joined.polls.flatten.countP Turn.suspends) ∧
      (joined.verdict = .hung ∨
        joined.polls.length ≤ joined.polls.flatten.countP Turn.suspends + 1) := by
  induction polls generalizing turns crowd state with
  | zero =>
      refine ⟨crowd, ?_⟩
      have hzero : crowd.await api .steady waking 0 state = ⟨crowd.verdict, [], state⟩ := by
        cases hall : crowd.branches.toList.all Branch.isFinished with
        | true =>
            exact Crowd.await_of_finished hall waking 0 state
        | false =>
            exact Crowd.await_zero hall waking state
      rw [hzero]
      exact ⟨by simpa using h, rfl, Or.inr (Nat.zero_le _), Or.inr (Nat.zero_le _)⟩
  | succ left ih =>
      cases hall : crowd.branches.toList.all Branch.isFinished with
      | true =>
          refine ⟨crowd, ?_⟩
          rw [Crowd.await_of_finished hall]
          exact ⟨by simpa using h, rfl, Or.inl (h.pending_of_finished hall), Or.inr (Nat.zero_le _)⟩
      | false =>
          obtain ⟨served, next, nextState, hpoll, hnext, hroused, hprogress⟩ := h.poll hasleep waking
          rw [Crowd.await_succ hall hpoll]
          rcases hprogress with ⟨turn, hturn, hsuspends⟩ | idle
          · -- the poll is paid for by a suspension
            obtain ⟨last, hreached, hverdict, hpending, hlength⟩ := ih hnext hroused
            have hcount : 0 < served.countP Turn.suspends :=
              List.countP_pos_iff.2 ⟨turn, hturn, hsuspends⟩
            refine ⟨last, by simpa using hreached, hverdict, ?_, ?_⟩
            · rw [List.flatten_cons, List.countP_append]
              exact hpending.imp_right fun hle => by omega
            · rw [List.flatten_cons, List.countP_append, List.length_cons]
              exact hlength.imp_right fun hle => by omega
          · -- nobody has a turn any more
            obtain ⟨hverdict, hstate, hflatten, hlength⟩ :=
              Crowd.await_of_idle api idle waking left nextState
            refine ⟨next, ?_, hverdict, Or.inl idle, hlength.imp_right fun hnone => ?_⟩
            · rw [List.flatten_cons, hflatten, List.append_nil, hstate]
              exact hnext
            · simp [hnone]

end Reached

namespace Crowd

variable {n : Nat}

/-- An evaluation that has ended ends in the same way when it may be polled more often. -/
theorem await_mono {api : Api σ} {sink : LogSink} {waking : Call → Waking} {crowd : Crowd n}
    {polls more : Nat} {state : σ} (hle : polls ≤ more)
    (ends : (crowd.await api sink waking polls state).verdict ≠ .hung) :
    crowd.await api sink waking more state = crowd.await api sink waking polls state := by
  induction polls generalizing crowd more state with
  | zero =>
      rw [await] at ends ⊢
      split at ends
      · next hall =>
          rw [if_pos hall]
          cases more <;> rw [await, if_pos hall]
      · exact absurd rfl ends
  | succ left ih =>
      obtain ⟨others, rfl⟩ : ∃ others, more = others + 1 := Nat.exists_eq_add_of_le' (by omega)
      rw [await] at ends ⊢
      rw [await]
      split at ends
      · next hall =>
          rw [if_pos hall, if_pos hall]
      · next hall =>
          rw [if_neg hall, if_neg hall]
          cases hnext : (crowd.poll api sink waking state).next with
          | error text =>
              simp only [hnext]
          | ok next =>
              simp only [hnext] at ends ⊢
              rw [ih (Nat.le_of_succ_le_succ hle) ends]

end Crowd

end Awaits

end EventRules
