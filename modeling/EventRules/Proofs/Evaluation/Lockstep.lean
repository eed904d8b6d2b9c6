import EventRules.Proofs.Evaluation.Polls

/-!
# Lockstep — larger joins whose polls are rounds

A call that leaves it to something outside to wake its branch is *late*: its branch sleeps until the
poll is over.  If all calls are late, each poll of a larger join gives every branch that waits just one
turn, in the order of the table, as a round does.

* `Serves.round` — everybody in the queue has one turn;
* `AtRound` — a crowd after so many rounds; `AtRound.poll` leads from one to the next;
* `join_eq_rounds` — such a join is an evaluation in rounds, and its polls show what the rounds show.
-/

namespace EventRules

section Lockstep

variable {σ : Type} {api : Api σ} {prepared : List Prepared} {start : σ}
variable {turns : List Turn} {crowd : Crowd prepared.length} {state : σ}

/-! ## Late calls -/

/-- No rule that fires is woken before the poll is over. -/
def Late (waking : Call → Waking) (prepared : List Prepared) : Prop :=
  ∀ call ∈ prepared.filterMap Prepared.call?, waking call = .afterwards

theorem Late.waking? {waking : Call → Waking} (late : Late waking prepared)
    (place : Fin prepared.length) (number : Nat) {branch : Branch}
    (hbranch : branch = (trackAt api prepared start place).branchAfter number)
    (waits : branch.isWaiting = true) : branch.waking? waking = some .afterwards := by
  subst hbranch
  have hmem : ∀ call, (prepared.get place).call? = some call → waking call = .afterwards :=
    fun call hcall => late call (List.mem_filterMap.2 ⟨_, List.getElem_mem place.isLt, hcall⟩)
  revert waits
  rw [trackAt]
  rcases hone : prepared.get place with ⟨rule, fault | _ | call⟩
  · simp [Prepared.track, Track.branchAfter, Branch.isWaiting]
  · simp [Prepared.track, Track.branchAfter, Branch.isWaiting]
  · have hown : waking call = .afterwards := hmem call (by rw [hone]; rfl)
    rw [Prepared.track_call]
    cases hending : ((api.call call (stateAfterAll api (prepared.take place) start)).1).ending with
    | none =>
        simp [Track.branchAfter, Branch.isWaiting, hending]
    | some ending =>
        by_cases hended : ((api.call call
          (stateAfterAll api (prepared.take place) start)).1).suspensions < number <;>
          simp [Track.branchAfter, Branch.isWaiting, Branch.waking?, hending, hended, hown]

theorem Late.yields {waking : Call → Waking} (late : Late waking prepared)
    (place : Fin prepared.length) {number : Nat} {branch : Branch}
    (hbranch : branch = (trackAt api prepared start place).branchAfter number) :
    branch.yields waking = false := by
  cases hwaits : branch.isWaiting with
  | true =>
      simp [Branch.yields, late.waking? place number hbranch hwaits]
  | false =>
      simp [Branch.yields, Branch.waking?_of_ends hwaits waking]

/-- A turn is over when its branch has finished, and leaves the others as they are. -/
theorem Crowd.unfinished_after {n : Nat} (crowd : Crowd n) (waking : Call → Waking) (place : Fin n)
    (rest : List (Fin n)) (branch : Branch) (hplace : (crowd.branches.get place).isPending = true) :
    (crowd.after waking place rest branch).unfinished + (if branch.isFinished then 1 else 0) =
      crowd.unfinished := by
  have hcount := crowd.countP_after (fun branch => !branch.isFinished) waking place rest branch
  rw [(Branch.goesOn_of_isPending hplace).1] at hcount
  rw [unfinished, unfinished]
  cases hfinished : branch.isFinished <;> simp [hfinished] at hcount ⊢ <;> omega

/-- Whether the branch of a place waits for another turn once it has had the next. -/
def staysOn (api : Api σ) (prepared : List Prepared) (start : σ) (turns : List Turn)
    (place : Fin prepared.length) : Bool :=
  Turn.count turns place + 1 < (trackAt api prepared start place).turnCount

/-- With its turn a branch leaves the queue, and sleeps if it has not had its last turn. -/
theorem Late.queue_crowdAfter {waking : Call → Waking} (late : Late waking prepared) (api : Api σ)
    (start : σ) (turns : List Turn) (crowd : Crowd prepared.length) (place : Fin prepared.length)
    (rest : List (Fin prepared.length)) :
    (crowdAfter api prepared start waking turns crowd place rest).woken = rest ∧
      (crowdAfter api prepared start waking turns crowd place rest).asleep =
        crowd.asleep ++ [place].filter (staysOn api prepared start turns) := by
  have hstays := (trackAt api prepared start place).isWaiting_branchAfter (Turn.count turns place)
  rw [crowdAfter, Crowd.after]
  cases hwaits : ((trackAt api prepared start place).branchAfter
      (Turn.count turns place + 1)).isWaiting with
  | true =>
      rw [late.waking? place _ rfl hwaits]
      simp [staysOn, hstays.1 hwaits]
  | false =>
      rw [Branch.waking?_of_ends hwaits waking]
      have hlast := mt hstays.2 (by simp [hwaits])
      simp [staysOn, hlast]

/-- What a poll of late calls comes to: everybody in the queue has one turn. -/
theorem Serves.round {waking : Call → Waking} {pace : Pace} {served : List Turn}
    {last : Crowd prepared.length} {lastState : σ}
    (serves : Serves api prepared start waking pace turns crowd state served last lastState)
    (h : Reached api prepared start turns crowd state) (late : Late waking prepared)
    (hyielded : pace.yielded = false)
    (hpace : pace.turns + crowd.woken.length ≤ crowd.unfinished) :
    served = crowd.woken.map (fun place =>
        turnAt api prepared start place (Turn.count turns place + 1)) ∧
      last.woken = [] ∧
      last.asleep = crowd.asleep ++ crowd.woken.filter (staysOn api prepared start turns) := by
  induction serves with
  | empty hwoken =>
      simp [hwoken]
  | @stops pace turns crowd state place rest hwoken hstops =>
      obtain ⟨hrest, hasleep⟩ := late.queue_crowdAfter api start turns crowd place rest
      have hcount := crowd.unfinished_after waking place rest
        ((trackAt api prepared start place).branchAfter (Turn.count turns place + 1))
        (h.isPending_front hwoken)
      rw [← crowdAfter] at hcount
      rw [Pace.next?_eq hyielded (late.yields place rfl)] at hstops
      rw [hwoken, List.length_cons] at hpace
      split at hstops
      · cases hstops
      · next hunfinished =>
          split at hstops
          · -- so many turns have been given that nobody else can be left
            rw [if_neg hunfinished] at hcount
            have hnil : rest = [] := List.length_eq_zero_iff.1 (by omega)
            rw [hrest, hasleep, hwoken, hnil]
            exact ⟨rfl, rfl, rfl⟩
          · cases hstops
  | @goesOn pace next turns served crowd last state lastState place rest hwoken hnext others ih =>
      obtain ⟨hrest, hasleep⟩ := late.queue_crowdAfter api start turns crowd place rest
      have hcount := crowd.unfinished_after waking place rest
        ((trackAt api prepared start place).branchAfter (Turn.count turns place + 1))
        (h.isPending_front hwoken)
      rw [← crowdAfter] at hcount
      rw [hwoken, List.length_cons] at hpace
      have hpaceNext : next.yielded = false ∧ next.turns + rest.length ≤
          (crowdAfter api prepared start waking turns crowd place rest).unfinished := by
        rw [Pace.next?_eq hyielded (late.yields place rfl)] at hnext
        split at hnext
        · next hfinished =>
            cases hnext
            rw [if_pos hfinished] at hcount
            exact ⟨rfl, by simp only [Pace.fresh]; omega⟩
        · next hunfinished =>
            rw [if_neg hunfinished] at hcount
            split at hnext
            · cases hnext
            · cases hnext
              exact ⟨rfl, by simp only; omega⟩
      obtain ⟨hserved, hlast, hlastAsleep⟩ := ih (h.turn hwoken waking) hpaceNext.1
        (by rw [hrest]; exact hpaceNext.2)
      -- those behind the front have had no turn since
      obtain ⟨hplace, -⟩ := h.nodup_front hwoken
      have hsame : ∀ other ∈ rest, Turn.count
          (turns ++ [turnAt api prepared start place (Turn.count turns place + 1)]) other =
            Turn.count turns other := fun other hmem =>
        Turn.count_turnAt_other turns fun hother =>
          hplace (List.mem_append_left _ (hother ▸ hmem))
      rw [hrest] at hserved hlastAsleep
      refine ⟨?_, hlast, ?_⟩
      · rw [hserved, hwoken, List.map_cons]
        exact congrArg (_ :: ·) (List.map_congr_left fun other hmem => by rw [hsame other hmem])
      · have hlater : rest.filter (staysOn api prepared start
            (turns ++ [turnAt api prepared start place (Turn.count turns place + 1)])) =
              rest.filter (staysOn api prepared start turns) :=
          List.filter_congr fun other hmem => by rw [staysOn, hsame other hmem, staysOn]
        rw [hlastAsleep, hasleep, hwoken, hlater, List.append_assoc, ← List.filter_append]
        rfl

/-! ## Round after round -/

namespace Turn

theorem count_append (turns served : List Turn) (place : Nat) :
    count (turns ++ served) place = count turns place + count served place := by
  rw [count, ofPlace, List.filter_append, List.length_append]
  rfl

theorem count_map_turnAt (number : Fin prepared.length → Nat) (places : List (Fin prepared.length))
    (place : Fin prepared.length) :
    count (places.map fun other => turnAt api prepared start other (number other)) place =
      places.count place := by
  induction places with
  | nil =>
      rfl
  | cons first rest ih =>
      by_cases hfirst : first = place
      · simpa [count, ofPlace, turnAt, hfirst] using ih
      · have hplace : (first : Nat) ≠ place := fun hsame => hfirst (Fin.ext hsame)
        simpa [count, ofPlace, turnAt, hfirst, hplace] using ih

end Turn

theorem flatMap_filter_eq {α β : Type} {places : List α} {holds : α → Bool} {kept all : α → List β}
    (hkept : ∀ place ∈ places, holds place = true → kept place = all place)
    (hnone : ∀ place ∈ places, holds place = false → all place = []) :
    (places.filter holds).flatMap kept = places.flatMap all := by
  induction places with
  | nil =>
      rfl
  | cons first rest ih =>
      have hrest := ih (fun place hmem => hkept place (List.mem_cons_of_mem _ hmem))
        (fun place hmem => hnone place (List.mem_cons_of_mem _ hmem))
      cases hholds : holds first with
      | true =>
          rw [List.filter_cons_of_pos hholds, List.flatMap_cons, List.flatMap_cons, hrest,
            hkept first List.mem_cons_self hholds]
      | false =>
          rw [List.filter_cons_of_neg (by simp [hholds]), List.flatMap_cons, hrest,
            hnone first List.mem_cons_self hholds, List.nil_append]

theorem Crowd.toList_branches {n : Nat} (crowd : Crowd n) :
    crowd.branches.toList = (List.finRange n).map crowd.branches.get := by
  refine List.ext_getElem (by simp) fun place hplace _ => ?_
  rw [Vector.getElem_toList, List.getElem_map, List.getElem_finRange]
  rfl

/-- A branch does not change any more after the last turn that it makes use of. -/
theorem Track.branchAfter_of_turnCount {track : Track} {turns : Nat}
    (later : track.turnCount ≤ turns) :
    track.branchAfter track.turnCount = track.branchAfter turns := by
  rcases track with ⟨rule, fault | _ | ⟨call, conduct⟩⟩
  · rfl
  · rfl
  · cases hending : conduct.ending with
    | none =>
        simp [branchAfter, hending]
    | some ending =>
        have hlast : conduct.suspensions < turns := by
          simp [turnCount, hending] at later
          omega
        simp [branchAfter, turnCount, hending, hlast]

theorem standAt_min (place : Fin prepared.length) (rounds : Nat) :
    standAt api prepared start place
        (min (rounds + 1) (trackAt api prepared start place).turnCount) =
      (trackAt api prepared start place).branchAfter (rounds + 1) := by
  rcases Nat.le_total (rounds + 1) (trackAt api prepared start place).turnCount with hle | hle
  · rw [Nat.min_eq_left hle, standAt]
  · obtain ⟨more, hmore⟩ := Nat.exists_eq_add_of_le' (trackAt api prepared start place).turnCount_pos
    rw [Nat.min_eq_right hle, ← Track.branchAfter_of_turnCount hle, hmore, standAt]

/-- A crowd after so many rounds: each branch has had a turn in each of them, as long as it makes
use of it. -/
structure AtRound (api : Api σ) (prepared : List Prepared) (start : σ) (rounds : Nat)
    (turns : List Turn) (crowd : Crowd prepared.length) (state : σ) : Prop
    extends Reached api prepared start turns crowd state where
  counts : ∀ place : Fin prepared.length, Turn.count turns place =
    min rounds (trackAt api prepared start place).turnCount
  asleep : crowd.asleep = []
  queue : crowd.woken = (List.finRange prepared.length).filter fun place =>
    rounds < (trackAt api prepared start place).turnCount

namespace AtRound

variable {rounds : Nat}

theorem ofPrepared (api : Api σ) (prepared : List Prepared) (start : σ) :
    AtRound api prepared start 0 [] (Crowd.ofPrepared prepared) start := by
  refine ⟨.ofPrepared api prepared start, fun place => ?_, rfl, ?_⟩
  · rw [Nat.zero_min]
    rfl
  · simp [Crowd.ofPrepared, Track.turnCount_pos]

theorem length_woken_le (h : AtRound api prepared start rounds turns crowd state) :
    crowd.woken.length ≤ crowd.unfinished := by
  have hpending : crowd.branches.toList.countP Branch.isPending = crowd.woken.length := by
    rw [crowd.toList_branches, List.countP_map, h.queue, ← List.countP_eq_length_filter]
    refine List.countP_congr fun place _ => ?_
    rw [Function.comp_apply, h.stands, isPending_standAt, h.counts]
    simp
  rw [Crowd.unfinished, Branch.countP_isFinished, hpending]
  exact Nat.le_add_left _ _

/-- With late calls a poll is a round. -/
theorem poll (h : AtRound api prepared start rounds turns crowd state) {waking : Call → Waking}
    (late : Late waking prepared) :
    ∃ served next nextState,
      crowd.poll api .steady waking state = ⟨served, nextState, .ok next⟩ ∧
      AtRound api prepared start (rounds + 1) (turns ++ served) next nextState ∧
      served.flatMap Turn.occurrences =
        (tracks api prepared start).flatMap (Track.seenIn api.name (rounds + 1)) := by
  obtain ⟨served, last, lastState, hserve, serves⟩ := h.serves waking .fresh
  obtain ⟨hserved, hwoken, hasleep⟩ := serves.round h.toReached late rfl
    (by simpa [Pace.fresh] using h.length_woken_le)
  have hstays : ∀ place : Fin prepared.length,
      rounds < (trackAt api prepared start place).turnCount →
        Turn.count turns place = rounds := fun place hless => by
    rw [h.counts, Nat.min_eq_left (Nat.le_of_lt hless)]
  refine ⟨served, last.rouse, lastState, ?_, ⟨(serves.reached h.toReached).rouse, ?_, rfl, ?_⟩, ?_⟩
  · rw [Crowd.poll, hserve]
    rfl
  · intro place
    rw [Turn.count_append, hserved, Turn.count_map_turnAt, h.counts, h.queue,
      List.Nodup.count ((List.nodup_finRange _).filter _)]
    simp only [List.mem_filter, List.mem_finRange, true_and, decide_eq_true_eq]
    split <;> omega
  · rw [Crowd.rouse, hwoken, hasleep, h.asleep, List.nil_append, List.nil_append, h.queue,
      List.filter_filter]
    refine List.filter_congr fun place _ => ?_
    rw [staysOn, ← Bool.decide_and, decide_eq_decide, h.counts]
    omega
  · rw [hserved, h.queue, List.flatMap_map, tracks_eq_map, List.flatMap_map]
    refine flatMap_filter_eq (fun place _ hless => ?_) fun place _ hless => ?_
    · rw [decide_eq_true_eq] at hless
      rw [hstays place hless, turnAt]
    · rw [decide_eq_false_iff_not] at hless
      exact Track.seenIn_of_turnCount api.name (by omega)

/-- The branches stand as they do in rounds. -/
theorem toList_branches (h : AtRound api prepared start (rounds + 1) turns crowd state) :
    crowd.branches.toList =
      (tracks api prepared start).map (Track.branchAfter (rounds + 1)) := by
  rw [crowd.toList_branches, tracks_eq_map, List.map_map]
  refine List.map_congr_left fun place _ => ?_
  rw [h.stands, h.counts, standAt_min, Function.comp_apply]

/-- Everybody has begun when the first round is over. -/
theorem state_eq (h : AtRound api prepared start (rounds + 1) turns crowd state) :
    state = stateAfterAll api prepared start := by
  obtain ⟨begun, hbegun⟩ := h.begun
  rw [hbegun.state]
  rcases Nat.lt_or_ge begun prepared.length with hless | hge
  · have hnone := (hbegun.fresh ⟨begun, hless⟩).2 (Nat.le_refl _)
    have hsome := (trackAt api prepared start ⟨begun, hless⟩).turnCount_pos
    rw [h.counts] at hnone
    omega
  · rw [List.take_of_length_le hge]

/-- Polls and rounds go on side by side. -/
theorem await (h : AtRound api prepared start (rounds + 1) turns crowd state)
    {waking : Call → Waking} (late : Late waking prepared) (polls : Nat) {branches : List Branch}
    (hbranches : branches = (tracks api prepared start).map (Track.branchAfter (rounds + 1))) :
    let joined := crowd.await api .steady waking polls state
    joined.verdict = (settle api .steady polls branches state).verdict ∧
      joined.state = stateAfterAll api prepared start ∧
      joined.polls.map (List.flatMap Turn.occurrences) =
        (settleHistory api .steady polls branches state).map (List.flatMap Part.occurrences) := by
  induction polls generalizing rounds turns crowd state branches with
  | zero =>
      rw [hbranches, ← h.toList_branches, settle, settleHistory]
      cases hall : crowd.branches.toList.all Branch.isFinished with
      | true =>
          rw [Crowd.await_of_finished hall, Crowd.verdict, if_pos hall]
          exact ⟨rfl, h.state_eq, rfl⟩
      | false =>
          rw [Crowd.await_zero hall, Crowd.verdict, hall]
          exact ⟨rfl, h.state_eq, rfl⟩
  | succ left ih =>
      rw [hbranches, ← h.toList_branches, settle, settleHistory]
      cases hall : crowd.branches.toList.all Branch.isFinished with
      | true =>
          rw [Crowd.await_of_finished hall, Crowd.verdict, if_pos hall]
          exact ⟨rfl, h.state_eq, rfl⟩
      | false =>
          obtain ⟨served, next, nextState, hpoll, hnext, hseen⟩ := h.poll late
          obtain ⟨hverdict, hstate, hpolls⟩ := ih hnext rfl
          have hsame : nextState = state := by rw [hnext.state_eq, h.state_eq]
          rw [hsame] at hpoll hverdict hstate hpolls
          rw [Crowd.await_succ hall hpoll, h.toList_branches, round_branchAfter, parts_branchAfter]
          refine ⟨hverdict, hstate, ?_⟩
          simp only [Bool.false_eq_true, if_false, List.map_cons, hpolls, hseen]
          simp [List.flatMap_map, Track.part]

end AtRound

end Lockstep

end EventRules
