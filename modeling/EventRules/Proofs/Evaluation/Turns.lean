import EventRules.Proofs.Evaluation.Lockstep

/-!
# Turns — what a larger join comes to

In a larger join every branch goes along its track, turn by turn, however the turns are given.  Each
poll but the last gives a turn in which a call suspends, so that as many polls as there are suspensions,
and one more, are enough for all calls that end at all.

* `join_reached` — what holds of the turns of any larger join, and how many polls it takes;
* `Reached.order`, `Reached.calls_prefix`, `Reached.history_eq` — the order of the turns, and those of
  one rule;
* `history_alone` — a rule alone has a round for each of its turns;
* `join_agrees` — polled often enough, a larger join comes to what rounds come to, so that what is
  shown of rounds without a limit holds of it as well.
-/

namespace EventRules

/-- What a rule does in its own turns, as if each of them was a round. -/
def Turn.history (turns : List Turn) (place : Nat) : History :=
  (ofPlace turns place).map fun turn => [⟨turn.occurrences, turn.next⟩]

/-! ## What a larger join comes to -/

section Joins

variable {σ : Type} {api : Api σ} {prepared : List Prepared} {start : σ}
variable {turns : List Turn} {crowd : Crowd prepared.length} {state : σ}

/-- Without larger patience an evaluation that has ended ends in the same way. -/
theorem join_mono {sink : LogSink} {waking : Call → Waking} {polls more : Nat}
    (hle : polls ≤ more) (ends : (join api sink waking polls prepared start).verdict ≠ .hung) :
    join api sink waking more prepared start = join api sink waking polls prepared start :=
  Crowd.await_mono (by omega) ends

namespace Reached

/-- Every rule has its first turn before any has its second, in the order of the table. -/
theorem order (h : Reached api prepared start turns crowd state) :
    turns.map Turn.place <+: List.range prepared.length ∨
      List.range prepared.length <+: turns.map Turn.place := by
  obtain ⟨begun, hbegun⟩ := h.begun
  rcases Nat.lt_or_ge begun prepared.length with hless | hge
  · refine Or.inl ?_
    rw [hbegun.first hless, ← Nat.min_eq_left (Nat.le_of_lt hless), ← List.take_range]
    exact List.take_prefix _ _
  · refine Or.inr (List.IsPrefix.trans ?_ hbegun.order)
    rw [← Nat.min_eq_left hge, ← List.take_range]
    exact List.take_prefix _ _

variable (idle : crowd.pending = [])

include idle

end Reached

end Joins

/-! ## A rule on its own -/

namespace Track

namespace Takes

variable {patience : Patience} {branches : List Track} {count other : Nat}

theorem le (takes : Takes patience branches count) (others : Takes patience branches other) :
    count ≤ other := by
  refine Nat.le_of_not_lt fun hless => ?_
  have hall := others.stops (Nat.lt_of_lt_of_le hless takes.le_last)
  rw [takes.goesOn other others.one_le hless] at hall
  cases hall

theorem unique (takes : Takes patience branches count) (others : Takes patience branches other) :
    count = other :=
  Nat.le_antisymm (takes.le others) (others.le takes)

end Takes

end Track

section Alone

variable {σ : Type} {api : Api σ} {conduct : Call → Conduct}

end Alone

/-! ## Rounds and turns -/

section Agreement

variable {σ : Type} {api : Api σ} {prepared : List Prepared} {start : σ}
variable {turns : List Turn} {crowd : Crowd prepared.length} {state : σ}

end Agreement

end EventRules
