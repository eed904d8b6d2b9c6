import Mathlib.Data.List.FinRange
import EventRules.Evaluation.Join
import EventRules.Proofs.Evaluation.Isolation

/-!
# Crowd — the turns of a larger join

The turns of a branch lead along its track, whichever branches have theirs in between: a turn of one
branch changes no other, and only its first reaches for the state of the service.  The first turns are
given in the order of the table, so that each call meets the state that it meets in rounds.

* `Track.turnCount` — how many turns a branch makes use of;
* `trackAt`, `turnAt`, `standAt` — the track, the turns and the stands of the branch in one place;
* `Reached` — what holds of a crowd after some turns;
* `Reached.advance`, `Reached.turn` — the next turn, and that the crowd after it is reached again.
-/

namespace EventRules

namespace Branch

/-- Whether the call of a branch has suspended. -/
def isWaiting (branch : Branch) : Bool :=
  match branch.stage with
  | .waiting _ _ _ => true
  | _ => false

theorem isSome_waking? (waking : Call → Waking) (branch : Branch) :
    (branch.waking? waking).isSome = branch.isWaiting := by
  rcases branch with ⟨rule, stage⟩
  cases stage <;> rfl

theorem waking?_of_ends {branch : Branch} (ends : branch.isWaiting = false)
    (waking : Call → Waking) : branch.waking? waking = none := by
  rwa [← branch.isSome_waking? waking, Option.isSome_eq_false_iff,
    Option.isNone_iff_eq_none] at ends

end Branch

namespace Track

/-- How many turns a branch makes use of: with the last of them it finishes, or is stuck for good. -/
def turnCount (track : Track) : Nat :=
  match track.course with
  | .calling _ conduct => if conduct.ending.isSome then conduct.suspensions + 1 else 1
  | _ => 1

theorem turnCount_pos (track : Track) : 0 < track.turnCount := by
  rcases track with ⟨rule, fault | _ | ⟨call, conduct⟩⟩
  · exact Nat.one_pos
  · exact Nat.one_pos
  · cases hending : conduct.ending <;> simp [turnCount, hending]

/-- A branch waits for another turn as long as it makes use of one. -/
theorem isWaiting_branchAfter (track : Track) (turns : Nat) :
    (track.branchAfter (turns + 1)).isWaiting = true ↔ turns + 1 < track.turnCount := by
  rcases track with ⟨rule, fault | _ | ⟨call, conduct⟩⟩
  · simp [branchAfter, Branch.isWaiting, turnCount]
  · simp [branchAfter, Branch.isWaiting, turnCount]
  · cases hending : conduct.ending with
    | none =>
        simp [branchAfter, Branch.isWaiting, turnCount, hending]
    | some ending =>
        by_cases hended : conduct.suspensions < turns + 1
        · simp [branchAfter, Branch.isWaiting, turnCount, hending, hended]
          omega
        · simp [branchAfter, Branch.isWaiting, turnCount, hending, hended]
          omega

/-- Nothing is seen of a branch after the turns that it makes use of. -/
theorem seenIn_of_turnCount {track : Track} {turn : Nat} (service : String)
    (later : track.turnCount < turn) : track.seenIn service turn = [] := by
  have hpos := track.turnCount_pos
  rcases track with ⟨rule, fault | _ | ⟨call, conduct⟩⟩
  · rfl
  · rfl
  · have hfirst : turn ≠ 1 := by omega
    rw [seenIn_calling, if_neg hfirst, List.nil_append]
    cases hending : conduct.ending with
    | none =>
        simp
    | some ending =>
        have hown : turn ≠ conduct.suspensions + 1 := by
          simp [turnCount, hending] at later
          omega
        rw [if_neg hown]

end Track

/-! ## The track of a place -/

section Places

variable {σ : Type} (api : Api σ) (prepared : List Prepared) (start : σ)

/-- The track of the rule in one place, which meets the state that the rules before it leave. -/
def trackAt (place : Fin prepared.length) : Track :=
  (prepared.get place).track fun call =>
    (api.call call (stateAfterAll api (prepared.take place) start)).1

theorem tracks_eq_map :
    tracks api prepared start = (List.finRange prepared.length).map (trackAt api prepared start) := by
  induction prepared generalizing start with
  | nil =>
      rfl
  | cons first rest ih =>
      show _ = (List.finRange (rest.length + 1)).map _
      rw [tracks, ih, List.finRange_succ, List.map_cons, List.map_map]
      rfl

/-- The branch in one place after so many turns. -/
def standAt (place : Fin prepared.length) : (turns : Nat) → Branch
  | 0 => .ofPrepared (prepared.get place)
  | turns + 1 => (trackAt api prepared start place).branchAfter (turns + 1)

/-- One of the turns of a place; they are counted from one. -/
def turnAt (place : Fin prepared.length) (number : Nat) : Turn where
  place := place
  occurrences := (trackAt api prepared start place).seenIn api.name number
  next := .ok ((trackAt api prepared start place).branchAfter number)

end Places

/-! ## What a turn does to a crowd -/

namespace Crowd

variable {n : Nat}

theorem branches_after (crowd : Crowd n) (waking : Call → Waking) (place : Fin n)
    (rest : List (Fin n)) (branch : Branch) :
    (crowd.after waking place rest branch).branches =
      crowd.branches.set place branch place.isLt := by
  rw [after]
  rcases branch.waking? waking with _ | _ | _ <;> rfl

theorem prefix_after (crowd : Crowd n) (waking : Call → Waking) (place : Fin n)
    (rest : List (Fin n)) (branch : Branch) :
    rest <+: (crowd.after waking place rest branch).woken := by
  rw [after]
  rcases branch.waking? waking with _ | _ | _
  · exact List.prefix_rfl
  · exact List.prefix_append rest [place]
  · exact List.prefix_rfl

/-- The places that have a turn before them, in this poll or in a later one. -/
def pending (crowd : Crowd n) : List (Fin n) := crowd.woken ++ crowd.asleep

theorem mem_pending_of_front {crowd : Crowd n} {place : Fin n} {rest : List (Fin n)}
    (hwoken : crowd.woken = place :: rest) : place ∈ crowd.pending := by
  rw [pending, hwoken]
  exact List.mem_append_left _ List.mem_cons_self

/-- A branch that has had its turn has another one before it if it waits for that. -/
theorem pending_after (crowd : Crowd n) (waking : Call → Waking) (place : Fin n)
    (rest : List (Fin n)) (branch : Branch) :
    (crowd.after waking place rest branch).pending.Perm
      ((if branch.isWaiting then [place] else []) ++ (rest ++ crowd.asleep)) := by
  rw [after, pending, ← branch.isSome_waking? waking]
  rcases branch.waking? waking with _ | _ | _
  · exact .refl _
  · have hrotate : (rest ++ [place]).Perm ([place] ++ rest) := List.perm_append_comm
    exact hrotate.append_right crowd.asleep
  · show (rest ++ (crowd.asleep ++ [place])).Perm ([place] ++ (rest ++ crowd.asleep))
    rw [← List.append_assoc]
    exact List.perm_append_comm

end Crowd

/-! ## What holds after some turns -/

/-- The turns of one place. -/
def Turn.ofPlace (turns : List Turn) (place : Nat) : List Turn :=
  turns.filter fun turn => turn.place = place

/-- How many turns a place has had. -/
def Turn.count (turns : List Turn) (place : Nat) : Nat := (ofPlace turns place).length

/-- The calls that begin in a turn. -/
def Turn.calls (turn : Turn) : List Call := turn.occurrences.filterMap Occurrence.begun?

section Reached

variable {σ : Type} (api : Api σ) (prepared : List Prepared) (start : σ)

/-- The first turns are given in the order of the table, so that the places that have had none are
the last ones and still stand at the front of the queue. -/
structure Begun (turns : List Turn) (woken : List (Fin prepared.length)) (state : σ)
    (begun : Nat) : Prop where
  front : (List.finRange prepared.length).drop begun <+: woken
  order : List.range begun <+: turns.map Turn.place
  first : begun < prepared.length → turns.map Turn.place = List.range begun
  fresh : ∀ place : Fin prepared.length, Turn.count turns place = 0 ↔ begun ≤ place
  state : state = stateAfterAll api (prepared.take begun) start
  calls : turns.flatMap Turn.calls = (prepared.take begun).filterMap Prepared.call?

/-- A crowd to which some turns have led. -/
structure Reached (turns : List Turn) (crowd : Crowd prepared.length) (state : σ) : Prop where
  places : ∀ turn ∈ turns, turn.place < prepared.length
  own : ∀ place : Fin prepared.length, Turn.ofPlace turns place =
    (List.range' 1 (Turn.count turns place)).map (turnAt api prepared start place)
  stands : ∀ place : Fin prepared.length,
    crowd.branches.get place = standAt api prepared start place (Turn.count turns place)
  pending : ∀ place : Fin prepared.length, place ∈ crowd.pending ↔
    Turn.count turns place < (trackAt api prepared start place).turnCount
  within : ∀ place : Fin prepared.length,
    Turn.count turns place ≤ (trackAt api prepared start place).turnCount
  once : crowd.pending.Nodup
  begun : ∃ begun, Begun api prepared start turns crowd.woken state begun

variable {api prepared start}
variable {turns : List Turn} {crowd : Crowd prepared.length} {state : σ}

/-- The call of a rule that fires begins in its first turn. -/
theorem calls_turnAt (place : Fin prepared.length) (number : Nat) :
    (turnAt api prepared start place number).calls =
      if number = 1 then (prepared.get place).call?.toList else [] :=
  Track.filterMap_begun?_seenIn api.name number _ (prepared.get place)

namespace Turn

variable (turns) {place other : Fin prepared.length} {number : Nat}

theorem ofPlace_turnAt :
    ofPlace (turns ++ [turnAt api prepared start place number]) place =
      ofPlace turns place ++ [turnAt api prepared start place number] := by
  simp [ofPlace, List.filter_append, turnAt]

theorem count_turnAt :
    count (turns ++ [turnAt api prepared start place number]) place = count turns place + 1 := by
  rw [count, ofPlace_turnAt, List.length_append, count, List.length_singleton]

theorem ofPlace_turnAt_other (hne : other ≠ place) :
    ofPlace (turns ++ [turnAt api prepared start place number]) other = ofPlace turns other := by
  have hplace : (place : Nat) ≠ other := fun hsame => hne (Fin.ext hsame.symm)
  simp [ofPlace, List.filter_append, turnAt, hplace]

theorem count_turnAt_other (hne : other ≠ place) :
    count (turns ++ [turnAt api prepared start place number]) other = count turns other := by
  rw [count, ofPlace_turnAt_other turns hne, count]

end Turn

namespace Begun

/-- The place at the front of the queue is the first that has had no turn, if there is one. -/
theorem front_eq {place : Fin prepared.length} {rest : List (Fin prepared.length)} {begun : Nat}
    (h : Begun api prepared start turns (place :: rest) state begun) :
    (begun = place ∧ (List.finRange prepared.length).drop (begun + 1) <+: rest) ∨
      prepared.length ≤ begun := by
  rcases Nat.lt_or_ge begun prepared.length with hlt | hge
  · have hfront := h.front
    rw [List.drop_eq_getElem_cons (by simpa using hlt), List.cons_prefix_cons] at hfront
    obtain ⟨hplace, hrest⟩ := hfront
    refine Or.inl ⟨?_, hrest⟩
    rw [← hplace]
    simp
  · exact Or.inr hge

theorem stateAfterAll_take_succ (place : Fin prepared.length) :
    stateAfterAll api (prepared.take (place + 1)) start =
      (prepared.get place).stateAfter api (stateAfterAll api (prepared.take place) start) := by
  rw [List.take_succ_eq_append_getElem place.isLt, stateAfterAll, List.foldl_append]
  rfl

end Begun

/-- The state after the turn of the place at the front. -/
def stateOf (api : Api σ) (prepared : List Prepared) (turns : List Turn)
    (place : Fin prepared.length) (state : σ) : σ :=
  if Turn.count turns place = 0 then (prepared.get place).stateAfter api state else state

/-- The turn of the place at the front keeps the order of the first turns. -/
theorem Begun.turn {place : Fin prepared.length} {rest woken : List (Fin prepared.length)}
    {begun : Nat} (h : Begun api prepared start turns (place :: rest) state begun)
    (hwoken : rest <+: woken) :
    ∃ begun, Begun api prepared start
      (turns ++ [turnAt api prepared start place (Turn.count turns place + 1)]) woken
      (stateOf api prepared turns place state) begun := by
  rcases h.front_eq with ⟨rfl, hrest⟩ | hover
  · -- the first turn of the place
    have hnone : Turn.count turns place = 0 := (h.fresh place).2 (Nat.le_refl _)
    have hplaces : (turns ++ [turnAt api prepared start place (Turn.count turns place + 1)]).map
        Turn.place = List.range (place + 1) := by
      rw [List.map_append, h.first place.isLt, List.range_succ]
      rfl
    refine ⟨place + 1,
      { front := hrest.trans hwoken, order := hplaces ▸ List.prefix_rfl, first := fun _ => hplaces,
        fresh := ?fresh, state := ?leaves, calls := ?calls }⟩
    case fresh =>
      intro other
      by_cases hne : other = place
      · rw [hne, Turn.count_turnAt]
        omega
      · have hplace : (other : Nat) ≠ place := fun hsame => hne (Fin.ext hsame)
        rw [Turn.count_turnAt_other _ hne, h.fresh other]
        omega
    case leaves =>
      rw [stateOf, if_pos hnone, stateAfterAll_take_succ, ← h.state]
    case calls =>
      rw [List.flatMap_append, h.calls, List.take_succ_eq_append_getElem place.isLt,
        List.filterMap_append, List.flatMap_singleton, calls_turnAt, hnone]
      cases hcall : prepared[(place : Nat)].call? <;> simp [hcall]
  · -- all places have had a turn before
    have hmore : ∀ other : Fin prepared.length, Turn.count turns other ≠ 0 := by
      intro other hnone
      have := (h.fresh other).1 hnone
      have := other.isLt
      omega
    refine ⟨begun,
      { front := ?front, order := ?order, first := fun hless => absurd hover (by omega),
        fresh := ?fresh, state := ?leaves, calls := ?calls }⟩
    case front =>
      rw [List.drop_eq_nil_of_le (by simpa using hover)]
      exact List.nil_prefix
    case order =>
      rw [List.map_append]
      exact h.order.trans (List.prefix_append _ _)
    case fresh =>
      intro other
      have hlt : ¬ begun ≤ other := by
        have := other.isLt
        omega
      by_cases hne : other = place
      · rw [hne] at hlt ⊢
        rw [Turn.count_turnAt]
        omega
      · rw [Turn.count_turnAt_other _ hne]
        simp [hlt, hmore other]
    case leaves =>
      rw [stateOf, if_neg (hmore place)]
      exact h.state
    case calls =>
      have hlater : Turn.count turns place + 1 ≠ 1 := by
        have := hmore place
        omega
      rw [List.flatMap_append, h.calls, List.flatMap_singleton, calls_turnAt, if_neg hlater,
        List.append_nil]

namespace Reached

variable {place : Fin prepared.length} {rest : List (Fin prepared.length)}

/-- The turn at the front is the next of the turns of its place. -/
theorem advance (h : Reached api prepared start turns crowd state)
    (hwoken : crowd.woken = place :: rest) :
    (crowd.branches.get place).advance api .steady state =
      ⟨(turnAt api prepared start place (Turn.count turns place + 1)).occurrences,
        stateOf api prepared turns place state,
        .ok ((trackAt api prepared start place).branchAfter (Turn.count turns place + 1))⟩ := by
  rw [h.stands]
  cases hcount : Turn.count turns place with
  | zero =>
      obtain ⟨begun, hbegun⟩ := h.begun
      rw [hwoken] at hbegun
      have hle := (hbegun.fresh place).1 hcount
      have hplace : begun = place := by
        rcases hbegun.front_eq with ⟨hplace, -⟩ | hover
        · exact hplace
        · have := place.isLt
          omega
      have hstate := hbegun.state
      rw [hplace] at hstate
      rw [standAt, Branch.advance_ofPrepared, stateOf, if_pos hcount, turnAt, trackAt, ← hstate]
  | succ count =>
      have hmore : Turn.count turns place ≠ 0 := by omega
      rw [standAt, Branch.advance_branchAfter, stateOf, if_neg hmore, turnAt]

/-- The place at the front is queued once, and nobody behind it twice. -/
theorem nodup_front (h : Reached api prepared start turns crowd state)
    (hwoken : crowd.woken = place :: rest) :
    place ∉ rest ++ crowd.asleep ∧ (rest ++ crowd.asleep).Nodup := by
  have hnodup := h.once
  rwa [Crowd.pending, hwoken, List.cons_append, List.nodup_cons] at hnodup

/-- After a turn of the place at the front, the crowd has still been reached by its turns. -/
theorem turn (h : Reached api prepared start turns crowd state)
    (hwoken : crowd.woken = place :: rest) (waking : Call → Waking) :
    Reached api prepared start
      (turns ++ [turnAt api prepared start place (Turn.count turns place + 1)])
      (crowd.after waking place rest
        ((trackAt api prepared start place).branchAfter (Turn.count turns place + 1)))
      (stateOf api prepared turns place state) := by
  obtain ⟨hplace, hnodup⟩ := h.nodup_front hwoken
  have hperm := crowd.pending_after waking place rest
    ((trackAt api prepared start place).branchAfter (Turn.count turns place + 1))
  have hwaits := (trackAt api prepared start place).isWaiting_branchAfter (Turn.count turns place)
  -- the place at the front has had one more turn, and nothing has changed for any other
  refine { places := ?places, own := ?own, stands := ?stands, pending := ?pending,
           within := ?within, once := ?once, begun := ?begun }
  case places =>
    exact List.forall_mem_append.2 ⟨h.places, List.forall_mem_singleton.2 place.isLt⟩
  case own =>
    intro other
    by_cases hne : other = place
    · rw [hne, Turn.count_turnAt, Turn.ofPlace_turnAt, List.range'_1_concat, List.map_append,
        ← h.own place, Nat.add_comm 1, List.map_singleton]
    · rw [Turn.count_turnAt_other turns hne, Turn.ofPlace_turnAt_other turns hne, h.own other]
  case stands =>
    intro other
    rw [Crowd.branches_after]
    by_cases hne : other = place
    · rw [hne, Turn.count_turnAt]
      exact Vector.getElem_set_self place.isLt
    · rw [Turn.count_turnAt_other turns hne, ← h.stands other]
      exact Vector.getElem_set_ne place.isLt other.isLt fun hsame => hne (Fin.ext hsame.symm)
  case pending =>
    intro other
    rw [hperm.mem_iff, List.mem_append]
    by_cases hne : other = place
    · rw [hne, Turn.count_turnAt, or_iff_left hplace, ← hwaits]
      split <;> simp_all
    · have hrest : other ∈ rest ++ crowd.asleep ↔ other ∈ crowd.pending := by
        rw [Crowd.pending, hwoken, List.cons_append, List.mem_cons, or_iff_right hne]
      rw [Turn.count_turnAt_other turns hne, ← h.pending other, hrest, or_iff_right]
      split <;> simp [hne]
  case within =>
    intro other
    by_cases hne : other = place
    · rw [hne, Turn.count_turnAt]
      exact (h.pending place).1 (Crowd.mem_pending_of_front hwoken)
    · rw [Turn.count_turnAt_other turns hne]
      exact h.within other
  case once =>
    rw [hperm.nodup_iff]
    split
    · exact List.nodup_cons.2 ⟨hplace, hnodup⟩
    · exact hnodup
  case begun =>
    obtain ⟨begun, hbegun⟩ := h.begun
    rw [hwoken] at hbegun
    exact hbegun.turn (crowd.prefix_after waking place rest _)

/-- Between two polls nothing happens but that those asleep are woken. -/
theorem rouse (h : Reached api prepared start turns crowd state) :
    Reached api prepared start turns crowd.rouse state := by
  have hpending : crowd.rouse.pending = crowd.pending := by
    rw [Crowd.pending, Crowd.rouse, List.append_nil, Crowd.pending]
  refine ⟨h.places, h.own, h.stands, ?_, h.within, ?_, ?_⟩
  · rw [hpending]
    exact h.pending
  · rw [hpending]
    exact h.once
  · obtain ⟨begun, hbegun⟩ := h.begun
    exact ⟨begun, hbegun.front.trans (List.prefix_append _ _), hbegun.order, hbegun.first,
      hbegun.fresh, hbegun.state, hbegun.calls⟩

theorem ofPrepared (api : Api σ) (prepared : List Prepared) (start : σ) :
    Reached api prepared start [] (Crowd.ofPrepared prepared) start := by
  refine ⟨by simp, fun _ => rfl, fun place => ?_, fun place => ?_, fun _ => Nat.zero_le _, ?_, ?_⟩
  · simp [Vector.get, Crowd.ofPrepared, standAt, Turn.count, Turn.ofPlace]
    rfl
  · simp [Crowd.pending, Crowd.ofPrepared, Turn.count, Turn.ofPlace, Track.turnCount_pos]
  · simpa [Crowd.pending, Crowd.ofPrepared] using List.nodup_finRange prepared.length
  · exact ⟨0, List.prefix_rfl, List.nil_prefix, fun _ => rfl,
      fun _ => by simp [Turn.count, Turn.ofPlace], rfl, rfl⟩

end Reached

end Reached

end EventRules
