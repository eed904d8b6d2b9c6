import EventRules.Proofs.Evaluation.Simulation
import EventRules.Worker.Run

/-!
# Simulation — runs of the worker with corresponding services

What the worker does with a service does not tell it from another one that it is seen through.  This
carries over from one line of events to all of them, and to every task that needs a service.

* `Session.mapState` — a session in which another state is left behind;
* `Worker.Chosen` — services that correspond, or the same fault;
* `Api.Simulates.workOffAll`, `Worker.Chosen.runEvents`, `Worker.Chosen.dispatch` — the tasks.
-/

namespace EventRules

variable {σ τ : Type}

/-! ## Sessions -/

namespace Session

def mapState (f : σ → τ) (session : Session σ) : Session τ :=
  ⟨session.occurrences, session.status, session.errors, f session.state⟩

@[simp] theorem mapState_after (f : σ → τ) (before : List Occurrence) (session : Session σ) :
    (session.after before).mapState f = (session.mapState f).after before := rfl

@[simp] theorem mapState_afterEntries (f : σ → τ) (entries : List LogEntry) (session : Session σ) :
    (session.afterEntries entries).mapState f = (session.mapState f).afterEntries entries := rfl

@[simp] theorem mapState_succeeded (f : σ → τ) (state : σ) :
    (succeeded state).mapState f = succeeded (f state) := rfl

@[simp] theorem mapState_failed (f : σ → τ) (problem : Problem) (state : σ) :
    (failed problem state).mapState f = failed problem (f state) := rfl

@[simp] theorem mapState_endless (f : σ → τ) (state : σ) :
    (endless state).mapState f = endless (f state) := rfl

@[simp] theorem output_mapState (f : σ → τ) (filter : LogFilter) (session : Session σ) :
    (session.mapState f).output filter = session.output filter := rfl

end Session

namespace Worker

def Progress.mapState (f : σ → τ) (progress : Progress σ) : Progress τ :=
  ⟨progress.tally, progress.occurrences, f progress.state, progress.isStuck⟩

/-! ## Tasks without a service -/

theorem validate_mapState (f : σ → τ) (table : Table) (state : σ) :
    validate table (f state) = (validate table state).mapState f := by
  unfold validate
  dsimp only
  split <;> rfl

theorem conclude_mapState (f : σ → τ) (made : Dispatched σ) :
    conclude (made.mapState f) = (conclude made).mapState f := by
  obtain ⟨outcome, occurrences, state⟩ := made
  cases outcome <;> rfl

end Worker

/-! ## Lines of events -/

namespace Api.Simulates

open Worker

variable {f : σ → τ} {first : Api σ} {second : Api τ}

theorem workOff (h : first.Simulates f second) (table : Table) (number : Nat) (line : String)
    (state : σ) :
    Worker.workOff table second number line (f state) =
      (Worker.workOff table first number line state).mapState f := by
  unfold Worker.workOff
  split
  · rfl
  · cases HostEvent.ofText line with
    | error fault =>
        rfl
    | ok event =>
        simp only [h.react]
        rfl

theorem workOffAll (h : first.Simulates f second) (table : Table) (number : Nat)
    (lines : List String) (state : σ) :
    Worker.workOffAll table second number lines (f state) =
      (Worker.workOffAll table first number lines state).mapState f := by
  induction lines generalizing number state with
  | nil =>
      rfl
  | cons line rest ih =>
      simp only [Worker.workOffAll, h.workOff]
      generalize Worker.workOff table first number line state = made
      obtain ⟨tally, occurrences, next, isStuck⟩ := made
      cases isStuck with
      | true =>
          rfl
      | false =>
          simp only [Progress.mapState, ih]
          rfl

theorem workOffText (h : first.Simulates f second) (table : Table) (text : String) (state : σ) :
    Worker.workOffText table second text (f state) =
      (Worker.workOffText table first text state).mapState f := by
  unfold Worker.workOffText
  rw [h.workOffAll]
  generalize Worker.workOffAll table first 1 (textLines text) state = progress
  obtain ⟨tally, occurrences, next, isStuck⟩ := progress
  cases isStuck <;> rfl

/-! ## One payload -/

theorem send (h : first.Simulates f second) (target : String) (payload : Json) (state : σ) :
    Worker.send second target payload (f state) =
      (Worker.send first target payload state).mapState f := by
  unfold Worker.send
  cases Payload.classify payload with
  | error problem =>
      rfl
  | ok classified =>
      dsimp only
      rw [h.call, h.dispatch]

end Api.Simulates

/-! ## Tasks with a service -/

namespace Worker

/-- What comes of setting up two services: they correspond, or the same fault. -/
inductive Chosen (f : σ → τ) : Except RemoteFault (Api σ) → Except RemoteFault (Api τ) → Prop
  | made {first : Api σ} {second : Api τ} (h : first.Simulates f second) :
      Chosen f (.ok first) (.ok second)
  | fault (fault : RemoteFault) : Chosen f (.error fault) (.error fault)

namespace Chosen

variable {f : σ → τ} {first : Except RemoteFault (Api σ)} {second : Except RemoteFault (Api τ)}

theorem withApi (h : Chosen f first second) (entries : List LogEntry) (state : σ)
    {next : Api σ → Session σ} {next' : Api τ → Session τ}
    (hnext : ∀ {api : Api σ} {api' : Api τ}, api.Simulates f api' →
      next' api' = (next api).mapState f) :
    Worker.withApi (entries, second) (f state) next' =
      (Worker.withApi (entries, first) state next).mapState f := by
  cases h with
  | made same =>
      simp only [Worker.withApi, hnext same, Session.mapState_afterEntries]
  | fault fault =>
      rfl

theorem dispatch (h : Chosen f first second) (entries : List LogEntry) (target payload : String)
    (state : σ) :
    Worker.dispatch (entries, second) target payload (f state) =
      (Worker.dispatch (entries, first) target payload state).mapState f := by
  unfold Worker.dispatch
  cases Json.parse payload with
  | error fault =>
      rfl
  | ok value =>
      refine h.withApi entries state fun same => ?_
      rw [same.send, conclude_mapState]

/-- The surroundings are those of two networks, with the same files and the same input. -/
theorem runEvents (h : Chosen f first second) {around : Surroundings σ} {others : Surroundings τ}
    (hfile : others.file = around.file) (hinput : others.input = around.input)
    (entries : List LogEntry) (table : Table) (events : Option String) (state : σ) :
    Worker.runEvents others table (entries, second) events (f state) =
      (Worker.runEvents around table (entries, first) events state).mapState f := by
  have htext : eventsText others events = eventsText around events := by
    unfold eventsText
    rw [hfile, hinput]
  unfold Worker.runEvents
  rw [htext, Session.mapState_afterEntries]
  refine congrArg _ (h.withApi entries state fun same => ?_)
  rw [Session.mapState_afterEntries, same.name]
  refine congrArg _ ?_
  cases eventsText around events with
  | error problem =>
      rfl
  | ok text =>
      exact same.workOffText table text state

end Chosen
end Worker

end EventRules
