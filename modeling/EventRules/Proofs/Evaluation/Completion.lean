import EventRules.Proofs.Evaluation.Calls
import EventRules.Proofs.Evaluation.Unwinding

/-!
# Completion — the host is told exactly once

Working off an event ends with one signal, whether the rules succeed, fail or break down the log; there
is none only if the evaluation never ends.  What the log is told about failures follows what could be
seen of the evaluation, and comes before the signal.

* `Api.Shows` — all that can be seen of an evaluation; `evaluate_shows` — that there is nothing else;
* `Table.react_completes` — what becomes of an event.
-/

namespace EventRules

/-- What can be seen of an evaluation: that a rule fires, that its call begins and ends, and what the
service logs itself. -/
inductive Api.Shows {σ : Type} (api : Api σ) : Occurrence → Prop
  | running {rule : String} {call : Call} :
      Shows api (.logged (Branch.runningEntry rule call))
  | begun {call : Call} : Shows api (.begun call)
  | own {call : Call} {state : σ} {entry : LogEntry} :
      entry ∈ (api.call call state).1.entries → Shows api (.logged entry)
  | closing {call : Call} {ending : Ending} {occurrence : Occurrence} :
      occurrence ∈ ending.closing api.name call → Shows api occurrence

/-! ## Step by step -/

section Shown

variable {σ : Type} (api : Api σ) (sink : LogSink)

theorem shows_of_mem_opening {call : Call} {state : σ} {occurrence : Occurrence}
    (h : occurrence ∈ (api.call call state).1.opening call) : api.Shows occurrence := by
  rw [Conduct.opening, List.mem_cons] at h
  rcases h with rfl | hentry
  · exact .begun
  · obtain ⟨entry, hown, rfl⟩ := List.mem_map.1 hentry
    exact .own hown

theorem begin_shows (rule : String) (call : Call) (state : σ) :
    ∀ occurrence ∈ (Branch.begin api rule call state).occurrences, api.Shows occurrence := by
  intro occurrence h
  have hopening : ∀ {occurrence}, occurrence ∈ (api.call call state).1.opening call →
      api.Shows occurrence := fun h => shows_of_mem_opening api h
  rcases hcall : api.call call state with ⟨⟨entries, suspensions, ending⟩, after⟩
  simp only [hcall] at hopening
  cases ending with
  | none =>
      exact hopening (by simpa [Branch.begin, hcall] using h)
  | some ending =>
      cases suspensions with
      | zero =>
          have : occurrence ∈ Conduct.opening ⟨entries, 0, some ending⟩ call ∨
              occurrence ∈ ending.closing api.name call := by
            simpa [Branch.begin, Branch.finishing, hcall] using h
          rcases this with h | h
          · exact hopening h
          · exact .closing h
      | succ left =>
          exact hopening (by simpa [Branch.begin, hcall] using h)

theorem advance_shows (branch : Branch) (state : σ) :
    ∀ occurrence ∈ (branch.advance api sink state).occurrences, api.Shows occurrence := by
  intro occurrence h
  rcases branch with ⟨rule, stage⟩
  cases stage with
  | ready result =>
      rcases result with fault | _ | call
      · cases h
      · cases h
      · cases sink with
        | steady =>
            rcases List.mem_cons.1 h with rfl | hbegun
            · exact .running
            · exact begin_shows api rule call state occurrence hbegun
        | breaking text =>
            have : occurrence = .logged (Branch.runningEntry rule call) := by
              simpa [Branch.advance] using h
            exact this ▸ .running
  | waiting call ending left =>
      cases left with
      | zero =>
          exact .closing h
      | succ left =>
          cases h
  | stuck call =>
      cases h
  | finished result =>
      cases h

theorem round_shows (branches : List Branch) (state : σ) :
    ∀ occurrence ∈ (round api sink branches state).occurrences, api.Shows occurrence := by
  induction branches generalizing state with
  | nil =>
      simp [round]
  | cons first rest ih =>
      intro occurrence h
      have hfirst := advance_shows api sink first state occurrence
      cases hnext : (first.advance api sink state).next with
      | error text =>
          exact hfirst (by simpa [round, hnext] using h)
      | ok next =>
          rcases (by simpa [round, hnext] using h) with h | h
          · exact hfirst h
          · exact ih _ occurrence h

theorem settle_shows (rounds : Nat) (branches : List Branch) (state : σ) :
    ∀ occurrence ∈ (settle api sink rounds branches state).occurrences, api.Shows occurrence := by
  induction rounds generalizing branches state with
  | zero =>
      rw [settle]
      cases branches.all Branch.isFinished <;> simp
  | succ left ih =>
      intro occurrence h
      have hround := round_shows api sink branches state occurrence
      rw [settle] at h
      cases hall : branches.all Branch.isFinished with
      | true =>
          simp [hall] at h
      | false =>
          cases hnext : (round api sink branches state).next with
          | error text =>
              exact hround (by simpa [hall, hnext] using h)
          | ok next =>
              rcases (by simpa [hall, hnext] using h) with h | h
              · exact hround h
              · exact ih next _ occurrence h

/-- Nothing else can be seen of an evaluation. -/
theorem evaluate_shows (patience : Patience) (prepared : List Prepared) (state : σ) :
    ∀ occurrence ∈ (evaluate api sink patience prepared state).occurrences,
      api.Shows occurrence := by
  intro occurrence h
  have hround := round_shows api sink (prepared.map Branch.ofPrepared) state occurrence
  cases hnext : (round api sink (prepared.map Branch.ofPrepared) state).next with
  | error text =>
      exact hround (by simpa [evaluate, hnext] using h)
  | ok next =>
      rcases (by simpa [evaluate, hnext] using h) with h | h
      · exact hround h
      · exact settle_shows api sink _ next _ occurrence h

end Shown

/-! ## Signals and entries -/

/-- An entry about the outcome of an evaluation. -/
def Occurrence.reactionEntry? : Occurrence → Option LogEntry
  | .logged entry => if entry.source = .reaction then some entry else none
  | _ => none

namespace Api.Shows

variable {σ : Type} {api : Api σ} {occurrence : Occurrence}

/-- An evaluation does not signal anything. -/
theorem completion?_eq_none (shows : api.Shows occurrence) : occurrence.completion? = none := by
  cases shows with
  | running =>
      rfl
  | begun =>
      rfl
  | own hentry =>
      rfl
  | @closing call ending occurrence hclosing =>
      -- what is seen of an ending are its own occurrence and one entry, or nothing
      have hnone : (ending.closing api.name call).filterMap Occurrence.completion? = [] := by
        cases ending <;> rfl
      exact List.filterMap_eq_nil_iff.1 hnone occurrence hclosing

theorem reactionEntry?_eq_none (apart : api.NeverLogs .reaction) (shows : api.Shows occurrence) :
    occurrence.reactionEntry? = none := by
  cases shows with
  | running =>
      rfl
  | begun =>
      rfl
  | @own call state entry hentry =>
      simp [Occurrence.reactionEntry?, apart call state entry hentry]
  | @closing call ending occurrence hclosing =>
      have hnone : (ending.closing api.name call).filterMap Occurrence.reactionEntry? = [] := by
        cases ending <;> rfl
      exact List.filterMap_eq_nil_iff.1 hnone occurrence hclosing

end Api.Shows

namespace Verdict

theorem filterMap_completion?_entries (event : String) (verdict : Verdict) :
    ((verdict.entries event).map Occurrence.logged).filterMap Occurrence.completion? = [] := by
  rw [List.filterMap_map, List.filterMap_eq_nil_iff]
  intro entry _
  rfl

/-- All that is logged about an evaluation comes from the same part of the program. -/
theorem source_of_mem_entries {event : String} {verdict : Verdict} {entry : LogEntry}
    (h : entry ∈ verdict.entries event) : entry.source = .reaction := by
  cases verdict with
  | settled failures =>
      cases failures with
      | nil =>
          cases h
      | cons first rest =>
          rcases List.mem_cons.1 h with rfl | hfailure
          · rfl
          · obtain ⟨failure, -, rfl⟩ := List.mem_map.1 hfailure
            rfl
  | hung =>
      cases h
  | unwound text =>
      have : entry = breakdownEntry event text := by simpa [entries] using h
      exact this ▸ rfl

theorem filterMap_reactionEntry?_entries (event : String) (verdict : Verdict) :
    ((verdict.entries event).map Occurrence.logged).filterMap Occurrence.reactionEntry? =
      verdict.entries event := by
  rw [List.filterMap_map]
  refine (List.filterMap_congr fun entry hentry => ?_).trans List.filterMap_some
  simp [Occurrence.reactionEntry?, source_of_mem_entries hentry]

end Verdict

section Reactions

variable {σ : Type} (api : Api σ) (sink : LogSink) (patience : Patience)

/-- The signals of a reaction are those that its verdict calls for. -/
theorem Table.react_signals (table : Table) (event : HostEvent) (state : σ) :
    (table.react api sink patience event state).occurrences.filterMap Occurrence.completion? =
      (table.evaluate api sink patience event state).verdict.completion?.toList := by
  have hnone : (table.evaluate api sink patience event state).occurrences.filterMap
      Occurrence.completion? = [] :=
    List.filterMap_eq_nil_iff.2 fun occurrence h =>
      (evaluate_shows api sink patience _ state occurrence h).completion?_eq_none
  have hsignals : ∀ completions : List Completion,
      (completions.map Occurrence.signalled).filterMap Occurrence.completion? = completions := by
    intro completions
    rw [List.filterMap_map]
    exact List.filterMap_some
  rw [react, Evaluation.completed, List.filterMap_append, List.filterMap_append, hnone,
    Verdict.filterMap_completion?_entries, hsignals]
  rfl

theorem Table.react_entries (apart : api.NeverLogs .reaction) (table : Table) (event : HostEvent)
    (state : σ) :
    (table.react api sink patience event state).occurrences.filterMap Occurrence.reactionEntry? =
      (table.evaluate api sink patience event state).verdict.entries event.name := by
  have hnone : (table.evaluate api sink patience event state).occurrences.filterMap
      Occurrence.reactionEntry? = [] :=
    List.filterMap_eq_nil_iff.2 fun occurrence h =>
      (evaluate_shows api sink patience _ state occurrence h).reactionEntry?_eq_none apart
  have hsignals : ∀ completions : List Completion,
      (completions.map Occurrence.signalled).filterMap Occurrence.reactionEntry? = [] := by
    intro completions
    rw [List.filterMap_map, List.filterMap_eq_nil_iff]
    intro completion _
    rfl
  rw [react, Evaluation.completed, List.filterMap_append, List.filterMap_append, hnone,
    Verdict.filterMap_reactionEntry?_entries, hsignals, List.append_nil]
  rfl

theorem evaluate_steady_ne_unwound (prepared : List Prepared) (state : σ) (text : String) :
    (evaluate api .steady patience prepared state).verdict ≠ .unwound text := by
  rw [evaluate_steady]
  simp only [Track.verdictAfter]
  split <;> simp

/-- An evaluation unwinds if and only if some rule fires and the log breaks down over it. -/
theorem Table.evaluate_unwound_iff (table : Table) (event : HostEvent) (state : σ)
    (text : String) :
    (table.evaluate api sink patience event state).verdict = .unwound text ↔
      sink = .breaking text ∧ table.firings event ≠ [] := by
  rw [evaluate, ← table.filterMap_firing?_prepare event]
  cases sink with
  | steady =>
      simp [evaluate_steady_ne_unwound]
  | breaking own =>
      cases hfirings : (table.prepare event).filterMap Prepared.firing? with
      | nil =>
          have silent : ∀ one ∈ table.prepare event, one.call? = none := by
            simpa [Prepared.firing?] using List.filterMap_eq_nil_iff.1 hfirings
          simp [evaluate_of_silent api _ patience silent, evaluate_steady_ne_unwound]
      | cons first rest =>
          have hfirst : (table.prepare event).findSome? Prepared.firing? = some first := by
            rw [← List.head?_filterMap, hfirings, List.head?_cons]
          simp [evaluate_breaking api own patience hfirst]

/-- A log that breaks down does so over the first rule that fires. -/
theorem Table.evaluate_breaking {table : Table} {event : HostEvent} {rule : String} {call : Call}
    {rest : List (String × Call)} (fires : table.firings event = (rule, call) :: rest) (state : σ)
    (text : String) :
    table.evaluate api (.breaking text) patience event state =
      ⟨.unwound text, [.logged (Branch.runningEntry rule call)], state⟩ := by
  have hfirst : (table.prepare event).findSome? Prepared.firing? = some (rule, call) := by
    rw [← List.head?_filterMap, table.filterMap_firing?_prepare, fires, List.head?_cons]
  exact EventRules.evaluate_breaking api text patience hfirst state

/-- What becomes of an event. -/
theorem Table.react_completes (table : Table) (event : HostEvent) (state : σ) :
    let evaluation := table.evaluate api sink patience event state
    let reaction := table.react api sink patience event state
    -- there is one signal if the evaluation ends in any way, and none if it does not
    (evaluation.verdict ≠ .hung →
      ∃ completion, reaction.occurrences.filterMap Occurrence.completion? = [completion]) ∧
    (evaluation.verdict = .hung →
      reaction.occurrences.filterMap Occurrence.completion? = []) ∧
    -- it tells of success if and only if the evaluation ends without failures
    (.signalled .succeeded ∈ reaction.occurrences ↔ evaluation.verdict = .settled []) ∧
    -- all failures are logged once together, then each by itself in the order of the table
    (∀ failures, failures ≠ [] → evaluation.verdict = .settled failures →
      reaction.occurrences = evaluation.occurrences ++
        .logged (evaluationEntry event.name failures) ::
          failures.map (fun failure => .logged (failureEntry event.name failure)) ++
        [.signalled .failed]) ∧
    (api.NeverLogs .reaction → reaction.occurrences.filterMap Occurrence.reactionEntry? =
      evaluation.verdict.entries event.name) ∧
    -- a breakdown of the log is logged and signalled before any call begins
    (∀ text, evaluation.verdict = .unwound text ↔
      sink = .breaking text ∧ table.firings event ≠ []) ∧
    (∀ text rule call rest, sink = .breaking text → table.firings event = (rule, call) :: rest →
      reaction.occurrences =
        [.logged (Branch.runningEntry rule call), .logged (breakdownEntry event.name text),
          .signalled .failed]) ∧
    -- step by step, nothing unwinds out of the work about an evaluation
    handle sink event.name evaluation.work =
      ⟨if evaluation.verdict = .hung then .hung else .returned (), reaction.occurrences⟩ := by
  intro evaluation reaction
  have hsignals : reaction.occurrences.filterMap Occurrence.completion? =
      evaluation.verdict.completion?.toList :=
    table.react_signals api sink patience event state
  have hreaction : reaction.occurrences = evaluation.occurrences ++
      (evaluation.verdict.entries event.name).map .logged ++
        evaluation.verdict.completion?.toList.map .signalled := rfl
  refine ⟨?_, ?_, ?_, ?_, ?_, ?_, ?_, ?_⟩
  · intro ends
    rw [hsignals]
    rcases hverdict : evaluation.verdict with failures | _ | text
    · cases failures <;> exact ⟨_, rfl⟩
    · exact absurd hverdict ends
    · exact ⟨_, rfl⟩
  · intro hangs
    rw [hsignals, hangs]
    rfl
  · have hmem : Occurrence.signalled .succeeded ∈ reaction.occurrences ↔
        Completion.succeeded ∈ evaluation.verdict.completion?.toList := by
      rw [← hsignals, List.mem_filterMap]
      constructor
      · intro h
        exact ⟨_, h, rfl⟩
      · rintro ⟨occurrence, h, hcompletion⟩
        cases occurrence <;> cases hcompletion
        exact h
    rw [hmem]
    rcases evaluation.verdict with failures | _ | text
    · cases failures <;> simp [Verdict.completion?]
    · simp [Verdict.completion?]
    · simp [Verdict.completion?]
  · intro failures hne hverdict
    cases failures with
    | nil =>
        exact absurd rfl hne
    | cons first rest =>
        rw [hreaction, hverdict]
        simp [Verdict.entries, Verdict.completion?]
  · intro apart
    exact table.react_entries api sink patience apart event state
  · intro text
    exact table.evaluate_unwound_iff api sink patience event state text
  · rintro text rule call rest rfl fires
    rw [hreaction, show evaluation = _ from
      Table.evaluate_breaking api patience fires state text]
    rfl
  · exact handle_evaluation sink event.name evaluation

end Reactions

open Isolation in
/-- The log breaks down over the first of two rules that fire. -/
theorem Completion.breakdown_is_signalled :
    (pair.react (Scripted.api script) (.breaking "full") (.rounds 100) scan ()).occurrences =
      [.logged (Branch.runningEntry "left" leftCall),
        .logged (breakdownEntry "actionCreated" "full"), .signalled .failed] := by
  obtain ⟨-, -, -, -, -, -, hbreakdown, -⟩ :=
    Table.react_completes (Scripted.api script) (.breaking "full") (.rounds 100) pair scan ()
  exact hbreakdown "full" "left" leftCall [("right", rightCall)] rfl (by decide +kernel)

end EventRules
