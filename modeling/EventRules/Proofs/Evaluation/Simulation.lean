import EventRules.Evaluation.Reaction

/-!
# Simulation — one service seen through another

A service is seen through another one if every call does the same in both, and the states they leave
behind go on to correspond.  Nothing that is done with a service tells the two apart: what can be seen
is the same, and the states correspond at the end.

* `Api.Simulates` — how the states of two services correspond;
* `Api.Simulates.dispatch`, `Api.Simulates.round`, `Api.Simulates.settle` — one call, one round, and
  all rounds;
* `Api.Simulates.react` — one event.
-/

namespace EventRules

variable {σ τ : Type}

/-! ## States -/

def Dispatched.mapState (f : σ → τ) (made : Dispatched σ) : Dispatched τ :=
  ⟨made.outcome, made.occurrences, f made.state⟩

def Branch.Advance.mapState (f : σ → τ) (advance : Branch.Advance σ) : Branch.Advance τ :=
  ⟨advance.occurrences, f advance.state, advance.next⟩

def Round.mapState (f : σ → τ) (made : Round σ) : Round τ :=
  ⟨made.occurrences, f made.state, made.next⟩

def Evaluation.mapState (f : σ → τ) (evaluation : Evaluation σ) : Evaluation τ :=
  ⟨evaluation.verdict, evaluation.occurrences, f evaluation.state⟩

namespace Api

/-- Calls to both services do the same, whatever state the first one is in. -/
structure Simulates (f : σ → τ) (first : Api σ) (second : Api τ) : Prop where
  name : second.name = first.name
  call : ∀ call state,
    second.call call (f state) = ((first.call call state).1, f (first.call call state).2)

theorem simulates_stateless (f : σ → τ) (name : String) (conduct : Call → Conduct) :
    (stateless name conduct : Api σ).Simulates f (stateless name conduct : Api τ) :=
  ⟨rfl, fun _ _ => rfl⟩

namespace Simulates

variable {f : σ → τ} {first : Api σ} {second : Api τ}

/-! ## One call -/

theorem dispatch (h : first.Simulates f second) (rounds : Nat) (call : Call) (state : σ) :
    second.dispatch rounds call (f state) = (first.dispatch rounds call state).mapState f := by
  unfold Api.dispatch
  rw [h.call, h.name]
  generalize first.call call state = made
  obtain ⟨conduct, next⟩ := made
  dsimp only
  cases conduct.ending with
  | none =>
      rfl
  | some ending =>
      dsimp only
      split <;> rfl

/-! ## One round -/

theorem finishing (h : first.Simulates f second) (rule : String) (call : Call) (ending : Ending) :
    Branch.finishing second rule call ending = Branch.finishing first rule call ending := by
  unfold Branch.finishing
  rw [h.name]

theorem begin (h : first.Simulates f second) (rule : String) (call : Call) (state : σ) :
    Branch.begin second rule call (f state) = (Branch.begin first rule call state).mapState f := by
  unfold Branch.begin
  rw [h.call]
  generalize first.call call state = made
  obtain ⟨⟨entries, suspensions, ending⟩, next⟩ := made
  cases ending with
  | none =>
      rfl
  | some ending =>
      cases suspensions with
      | zero =>
          dsimp only
          rw [h.finishing]
          rfl
      | succ left =>
          rfl

theorem advance (h : first.Simulates f second) (sink : LogSink) (branch : Branch) (state : σ) :
    branch.advance second sink (f state) = (branch.advance first sink state).mapState f := by
  obtain ⟨rule, stage⟩ := branch
  cases stage with
  | ready result =>
      rcases result with fault | _ | call
      · rfl
      · rfl
      · cases sink with
        | breaking text =>
            rfl
        | steady =>
            simp only [Branch.advance, h.begin]
            rfl
  | waiting call ending left =>
      cases left with
      | zero =>
          simp only [Branch.advance, h.finishing]
          rfl
      | succ left =>
          rfl
  | stuck call =>
      rfl
  | finished result =>
      rfl

theorem round (h : first.Simulates f second) (sink : LogSink) (branches : List Branch) (state : σ) :
    EventRules.round second sink branches (f state) =
      (EventRules.round first sink branches state).mapState f := by
  induction branches generalizing state with
  | nil =>
      rfl
  | cons branch rest ih =>
      simp only [EventRules.round, h.advance]
      generalize branch.advance first sink state = made
      obtain ⟨occurrences, next, result⟩ := made
      cases result with
      | error text =>
          rfl
      | ok branch =>
          simp only [Branch.Advance.mapState, ih]
          rfl

/-! ## All rounds -/

theorem settle (h : first.Simulates f second) (sink : LogSink) (rounds : Nat)
    (branches : List Branch) (state : σ) :
    EventRules.settle second sink rounds branches (f state) =
      (EventRules.settle first sink rounds branches state).mapState f := by
  induction rounds generalizing branches state with
  | zero =>
      unfold EventRules.settle
      split <;> rfl
  | succ left ih =>
      unfold EventRules.settle
      split
      · rfl
      · dsimp only
        rw [h.round]
        generalize EventRules.round first sink branches state = made
        obtain ⟨occurrences, next, result⟩ := made
        cases result with
        | error text =>
            rfl
        | ok branches =>
            simp only [Round.mapState, ih]
            rfl

theorem evaluate (h : first.Simulates f second) (sink : LogSink) (patience : Patience)
    (prepared : List Prepared) (state : σ) :
    EventRules.evaluate second sink patience prepared (f state) =
      (EventRules.evaluate first sink patience prepared state).mapState f := by
  unfold EventRules.evaluate
  dsimp only
  rw [h.round]
  generalize EventRules.round first sink (prepared.map Branch.ofPrepared) state = made
  obtain ⟨occurrences, next, result⟩ := made
  cases result with
  | error text =>
      rfl
  | ok branches =>
      simp only [Round.mapState, h.settle]
      rfl

/-! ## One event -/

theorem react (h : first.Simulates f second) (table : Table) (sink : LogSink) (patience : Patience)
    (event : HostEvent) (state : σ) :
    table.react second sink patience event (f state) =
      (table.react first sink patience event state).mapState f := by
  simp only [Table.react, Evaluation.completed, Table.evaluate, h.evaluate]
  rfl

end Simulates
end Api

end EventRules
