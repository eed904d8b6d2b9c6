import Mathlib.Data.Multiset.Bind
import EventRules.Proofs.Evaluation.Completion
import EventRules.Proofs.Evaluation.Target

/-!
# Conclusion — an event leaves no call behind

A service that answers a call by that call alone treats an event as if there had been none before it.
If all of its calls end, then so does the evaluation, but not before them: what can be seen of the
event is, up to order, what can be seen of its rules, each from the beginning of its call to the end.

* `evaluate_occurrences_perm` — the trace of an evaluation, rule by rule;
* `Table.Completes` — all that becomes of an event, from whatever state it is worked off;
* `Table.exists_completes` — that it completes, if all calls end.
-/

namespace EventRules

/-! ## Ends of calls -/

/-- What the end of a call shows: success, failure, or nothing if the call breaks down. -/
def Ending.reply? : Ending → Option Bool
  | .answered _ => some true
  | .failed _ => some false
  | .panicked _ => none

/-- A call with what its end shows, if there is something to be seen of it. -/
def Call.reply? (conduct : Call → Conduct) (call : Call) : Option (Call × Bool) :=
  ((conduct call).ending.bind Ending.reply?).map fun succeeded => (call, succeeded)

def Occurrence.ended? : Occurrence → Option (Call × Bool)
  | .ended call succeeded => some (call, succeeded)
  | _ => none

theorem Ending.filterMap_ended?_closing (service : String) (call : Call) (ending : Ending) :
    (ending.closing service call).filterMap Occurrence.ended? =
      (ending.reply?.map fun succeeded => (call, succeeded)).toList := by
  cases ending <;> rfl

theorem Conduct.filterMap_ended?_opening (call : Call) (conduct : Conduct) :
    (conduct.opening call).filterMap Occurrence.ended? = [] := by
  simp [Conduct.opening, Occurrence.ended?]

/-! ## Rule by rule -/

namespace Track

/-- All that can be seen of a branch if its evaluation goes on for as long as it takes. -/
def trace (service : String) (track : Track) : List Occurrence :=
  (track.traceWithin service .unlimited).map Prod.snd

theorem filterMap_ended?_trace (service : String) (conduct : Call → Conduct) (one : Prepared) :
    ((one.track conduct).trace service).filterMap Occurrence.ended? =
      one.call?.toList.filterMap (Call.reply? conduct) := by
  rcases one with ⟨rule, fault | _ | call⟩
  · -- a branch without a call shows nothing
    rfl
  · rfl
  · have hrunning : Occurrence.ended? (.logged (Branch.runningEntry rule call)) = none := rfl
    have hopening := Conduct.filterMap_ended?_opening call (conduct call)
    cases hending : (conduct call).ending with
    | none =>
        simp [Prepared.track_call, trace, traceWithin, Prepared.call?, Call.reply?, hending,
          hrunning, hopening, Function.comp_def]
    | some ending =>
        have hclosing := ending.filterMap_ended?_closing service call
        have hreply : Call.reply? conduct call =
            ending.reply?.map fun succeeded => (call, succeeded) := by
          simp [Call.reply?, hending]
        simp [Prepared.track_call, trace, traceWithin, Prepared.call?, hending, hrunning, hopening,
          hclosing, hreply, Patience.allows, Function.comp_def, List.filterMap_cons]
        cases ending.reply? <;> rfl

end Track

section Steady

variable {σ : Type} {api : Api σ} {conduct : Call → Conduct}

/-- The rounds of an evaluation show what can be seen of its branches, in another order. -/
theorem evaluate_occurrences_perm (answers : api.AnswersBy conduct) (prepared : List Prepared)
    (state : σ) :
    (evaluate api .steady .unlimited prepared state).occurrences.Perm
      (prepared.flatMap fun one => (one.track conduct).trace api.name) := by
  obtain ⟨count, takes, hhistory⟩ := history_answersBy answers .unlimited prepared state
  let branches := prepared.map (Prepared.track conduct)
  have byRound : (evaluate api .steady .unlimited prepared state).occurrences =
      (List.range' 1 count).flatMap fun round => branches.flatMap (Track.seenIn api.name round) := by
    rw [evaluate_occurrences, hhistory, History.occurrences, Track.historyFrom, List.flatMap_map]
    simp [List.flatMap_map, Track.part, branches]
  have byBranch : (prepared.flatMap fun one => (one.track conduct).trace api.name) =
      branches.flatMap fun track => (List.range' 1 count).flatMap fun round =>
        track.seenIn api.name round := by
    rw [List.flatMap_map]
    refine List.flatMap_congr fun one hone => ?_
    rw [Track.trace, ← takes.flatMap_seenIn api.name (List.mem_map_of_mem hone), List.map_flatMap]
    simp [Function.comp_def]
  -- rounds and branches are passed through in either order
  rw [byRound, byBranch, ← Multiset.coe_eq_coe]
  simpa using Multiset.bind_bind (List.range' 1 count : Multiset Nat) (branches : Multiset Track)
    (f := fun round track => (track.seenIn api.name round : Multiset Occurrence))

theorem filterMap_ended?_evaluate (answers : api.AnswersBy conduct) (prepared : List Prepared)
    (state : σ) :
    ((evaluate api .steady .unlimited prepared state).occurrences.filterMap
      Occurrence.ended?).Perm
      ((prepared.filterMap Prepared.call?).filterMap (Call.reply? conduct)) := by
  refine ((evaluate_occurrences_perm answers prepared state).filterMap _).trans (.of_eq ?_)
  rw [List.filterMap_flatMap, List.filterMap_eq_flatMap_toList Prepared.call?,
    List.filterMap_flatMap]
  exact List.flatMap_congr fun one _ => Track.filterMap_ended?_trace api.name conduct one

/-- When an evaluation has settled, each branch has the result of its call. -/
theorem History.result?_length (answers : api.AnswersBy conduct) (patience : Patience)
    {prepared : List Prepared} {place : Nat} {rule : String} {call : Call}
    (hplace : prepared[place]? = some ⟨rule, .ok (some call)⟩) {state : σ} {ending : Ending}
    (hending : (conduct call).ending = some ending)
    (hallowed : patience.allows ((conduct call).suspensions + 1) = true) :
    let whole := history api .steady patience prepared state
    whole.result? place whole.length = some (Branch.resultOf ending) := by
  intro whole
  obtain ⟨count, takes, hhistory⟩ := history_answersBy answers patience prepared state
  obtain ⟨n, rfl⟩ : ∃ n, count = n + 1 := Nat.exists_eq_add_of_le' takes.one_le
  have htrack : (prepared.map (Prepared.track conduct))[place]? =
      some ⟨rule, .calling call (conduct call)⟩ := by
    simp [hplace, Prepared.track_call]
  have hlast : (⟨rule, .calling call (conduct call)⟩ : Track).lastRound? =
      some ((conduct call).suspensions + 1) := by
    simp [Track.lastRound?, hending]
  have hcount := (takes.le_iff (List.mem_of_getElem? htrack) hlast).2 hallowed
  have hlength : whole.length = n + 1 := by
    simp [whole, hhistory, Track.historyFrom]
  rw [hlength, show whole = _ from hhistory, result?_historyFrom api.name (by omega) htrack,
    Track.result?_branchAfter_calling]
  simpa [hending] using Nat.lt_of_succ_le hcount

/-- An evaluation by such a service does not depend on what the service has done before. -/
theorem evaluate_of_answersBy (answers : api.AnswersBy conduct) (patience : Patience)
    (prepared : List Prepared) (state other : σ) :
    (evaluate api .steady patience prepared state).verdict =
        (evaluate api .steady patience prepared other).verdict ∧
      (evaluate api .steady patience prepared state).occurrences =
        (evaluate api .steady patience prepared other).occurrences := by
  simp only [evaluate_steady, tracks_of_answersBy answers, and_self]

end Steady

/-! ## Events -/

section Events

variable {σ : Type} (api : Api σ) (conduct : Call → Conduct) (table : Table) (event : HostEvent)

/-- What becomes of an event, from whatever state it is worked off: its failures and its report. -/
structure Table.Completes (failures : List Failure) (report : List Occurrence) : Prop where
  verdict : ∀ state,
    (table.evaluate api .steady .unlimited event state).verdict = .settled failures
  occurrences : ∀ state, (table.react api .steady .unlimited event state).occurrences = report
  /-- The calls that begin are those of the rules that fire, in the order of the table. -/
  begun : report.filterMap Occurrence.begun? = table.calls event
  /-- Each of them ends, once, unless it leaves no trace. -/
  ended : (report.filterMap Occurrence.ended?).Perm
    ((table.calls event).filterMap (Call.reply? conduct))
  /-- Whether it leaves a trace or not, its branch has its result when the evaluation is over. -/
  results : ∀ state place trial call, (table.trials event)[place]? = some trial →
    trial.Fires call → ∃ ending, (conduct call).ending = some ending ∧
      let history := table.history api .steady .unlimited event state
      history.result? place history.length = some (Branch.resultOf ending)

variable {api conduct}

theorem Table.exists_settled (answers : api.AnswersBy conduct)
    (ends : ∀ call, (conduct call).ending ≠ none) (state : σ) :
    ∃ failures, (table.evaluate api .steady .unlimited event state).verdict = .settled failures := by
  cases hverdict : (table.evaluate api .steady .unlimited event state).verdict with
  | settled failures =>
      exact ⟨failures, rfl⟩
  | hung =>
      obtain ⟨call, -, hnone | hnot⟩ :=
        (evaluate_answersBy_hung answers .unlimited (table.prepare event) state).1 hverdict
      · exact absurd hnone (ends call)
      · simp [Patience.allows] at hnot
  | unwound text =>
      exact absurd hverdict (evaluate_steady_ne_unwound api .unlimited _ state text)

/-- What is added to an evaluation are entries about its outcome and a signal. -/
theorem Table.filterMap_react {α : Type} (see : Occurrence → Option α)
    (entries : ∀ entry : LogEntry, entry.source = .reaction → see (.logged entry) = none)
    (signals : ∀ completion, see (.signalled completion) = none) (state : σ) :
    (table.react api .steady .unlimited event state).occurrences.filterMap see =
      (table.evaluate api .steady .unlimited event state).occurrences.filterMap see := by
  have noEntry : ∀ verdict : Verdict,
      ((verdict.entries event.name).map Occurrence.logged).filterMap see = [] := by
    intro verdict
    rw [List.filterMap_map, List.filterMap_eq_nil_iff]
    exact fun entry hentry => entries entry (Verdict.source_of_mem_entries hentry)
  have noSignal : ∀ completions : List Completion,
      (completions.map Occurrence.signalled).filterMap see = [] := by
    intro completions
    rw [List.filterMap_map, List.filterMap_eq_nil_iff]
    exact fun completion _ => signals completion
  rw [react, Evaluation.completed, List.filterMap_append, List.filterMap_append, noEntry,
    noSignal, List.append_nil, List.append_nil]

/-- With a service that answers a call by that call alone, and all of whose calls end, an event
completes. -/
theorem Table.exists_completes (answers : api.AnswersBy conduct)
    (ends : ∀ call, (conduct call).ending ≠ none) (start : σ) :
    ∃ failures report, table.Completes api conduct event failures report := by
  obtain ⟨failures, settled⟩ := table.exists_settled event answers ends start
  have verdict : ∀ state,
      (table.evaluate api .steady .unlimited event state).verdict = .settled failures :=
    fun state =>
      (evaluate_of_answersBy answers .unlimited (table.prepare event) state start).1.trans settled
  refine ⟨failures, (table.react api .steady .unlimited event start).occurrences, verdict,
    ?_, ?_, ?_, ?_⟩
  · intro state
    -- what is added to an evaluation depends on its verdict alone
    have same :=
      (evaluate_of_answersBy answers .unlimited (table.prepare event) state start).2
    have whole : ∀ state, (table.react api .steady .unlimited event state).occurrences =
        (table.evaluate api .steady .unlimited event state).occurrences ++
          ((Verdict.settled failures).entries event.name).map .logged ++
          (Verdict.settled failures).completion?.toList.map .signalled := by
      intro state
      rw [← verdict state]
      rfl
    rw [whole, whole, show (table.evaluate api .steady .unlimited event state).occurrences = _
      from same]
    rfl
  · rw [table.filterMap_react event Occurrence.begun? (fun _ _ => rfl) (fun _ => rfl)]
    exact table.filterMap_begun?_evaluate api .unlimited .steady event start
  · rw [table.filterMap_react event Occurrence.ended? (fun _ _ => rfl) (fun _ => rfl),
      ← table.filterMap_call?_prepare]
    exact filterMap_ended?_evaluate answers (table.prepare event) start
  · intro state place trial call hplace fires
    obtain ⟨ending, hending⟩ := Option.ne_none_iff_exists'.1 (ends call)
    have hprepared : (table.prepare event)[place]? = some ⟨trial.rule, .ok (some call)⟩ := by
      rw [table.prepare_eq_trials, List.getElem?_map, hplace, Option.map_some,
        Trial.prepared_of_fires fires]
    exact ⟨ending, hending, History.result?_length answers .unlimited hprepared hending rfl⟩

end Events

end EventRules
