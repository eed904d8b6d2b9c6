import EventRules.Proofs.Evaluation.Isolation

/-!
# Aggregation — the failures of all rules, side by side and one by one

Evaluating the rules of an event side by side gives the failures that come of evaluating each rule
alone, one after the other, every rule meeting the service as the rules before it left it.

* `evaluateInTurn` — the rules alone, one after the other;
* `Trial.FailsWith` — why a rule alone fails, by what goes wrong first;
* `Table.evaluate_aggregates` — that both give the same failures.
-/

namespace EventRules

section InTurn

variable {σ : Type}

/-- Each rule alone, in a table of its own, on the state that the ones before left behind. -/
def evaluateInTurn (api : Api σ) (sink : LogSink) (patience : Patience) (event : HostEvent) :
    List Trial → σ → List (Evaluation σ)
  | [], _ => []
  | trial :: rest, state =>
      let alone := trial.table.evaluate api sink patience event state
      alone :: evaluateInTurn api sink patience event rest alone.state

end InTurn

/-- The failures of an evaluation that is settled. -/
def Verdict.failures : Verdict → List Failure
  | .settled failures => failures
  | _ => []

/-- The fault of a rule whose call has ended so. -/
def Ending.fault? : Ending → Option RuleFault
  | .answered _ => none
  | .failed fault => some (.remote fault)
  | .panicked text => some (.panicked text)

namespace Trial

/-- The rule fails, given how calls end: before it begins its call, or with it. -/
inductive FailsWith (answer : Call → Option Ending) : Trial → RuleFault → Prop
  | early {trial : Trial} {fault : RuleFault} :
      trial.FailsEarly fault → FailsWith answer trial fault
  | remote {trial : Trial} {call : Call} {fault : RemoteFault} :
      trial.Fires call → answer call = some (.failed fault) → FailsWith answer trial (.remote fault)
  | panicked {trial : Trial} {call : Call} {text : Option String} :
      trial.Fires call → answer call = some (.panicked text) →
      FailsWith answer trial (.panicked text)

/-- Why the rule fails, as it follows from what it has prepared. -/
def fault? (answer : Call → Option Ending) (trial : Trial) : Option RuleFault :=
  match trial.prepare with
  | .error fault => some fault
  | .ok none => none
  | .ok (some call) => (answer call).bind Ending.fault?

theorem fault?_eq_some_iff {answer : Call → Option Ending} {trial : Trial} {fault : RuleFault} :
    trial.fault? answer = some fault ↔ trial.FailsWith answer fault := by
  constructor
  · intro h
    rw [fault?] at h
    split at h
    · next found hprepare =>
        have : found = fault := Option.some.inj h
        exact .early (prepare_eq_error_iff.1 (this ▸ hprepare))
    · cases h
    · next call hprepare =>
        have fires := prepare_eq_call_iff.1 hprepare
        obtain ⟨ending, hending, hfault⟩ := Option.bind_eq_some_iff.1 h
        cases ending with
        | answered value =>
            cases hfault
        | failed own =>
            have : .remote own = fault := Option.some.inj hfault
            exact this ▸ .remote fires hending
        | panicked text =>
            have : .panicked text = fault := Option.some.inj hfault
            exact this ▸ .panicked fires hending
  · rintro (early | ⟨fires, hending⟩ | ⟨fires, hending⟩)
    · rw [fault?, prepare_of_failsEarly early]
    · simp [fault?, prepare_of_fires fires, hending, Ending.fault?]
    · simp [fault?, prepare_of_fires fires, hending, Ending.fault?]

/-- The track of a rule fails as its trial does. -/
theorem failure?_track (conduct : Call → Conduct) (trial : Trial) :
    (trial.prepared.track conduct).failure? =
      (trial.fault? fun call => (conduct call).ending).map fun fault => ⟨trial.rule, fault⟩ := by
  rcases hprepare : trial.prepare with fault | _ | call
  · simp [prepared, Prepared.track, Track.failure?, fault?, hprepare]
  · simp [prepared, Prepared.track, Track.failure?, fault?, hprepare]
  · rcases hending : (conduct call).ending with _ | value | fault | text <;>
      simp [prepared, Prepared.track, Track.failure?, fault?, Ending.fault?, hprepare, hending]

end Trial

/-! ## Settled evaluations, whatever the log -/

/-- Whether the log stands what these rules tell it. -/
def LogSink.Stands (sink : LogSink) (prepared : List Prepared) : Prop :=
  sink = .steady ∨ ∀ one ∈ prepared, one.call? = none

section Settled

variable {σ : Type} (api : Api σ) (sink : LogSink) (patience : Patience)

/-- An evaluation whose log does not stand it is unwound. -/
theorem evaluate_of_not_stands {prepared : List Prepared} (falls : ¬ sink.Stands prepared)
    (state : σ) :
    ∃ text, (evaluate api sink patience prepared state).verdict = .unwound text := by
  cases sink with
  | steady =>
      exact absurd (Or.inl rfl) falls
  | breaking text =>
      have hfires : (prepared.findSome? Prepared.firing?).isSome := by
        rw [List.findSome?_isSome_iff]
        simp only [LogSink.Stands, reduceCtorEq, false_or, not_forall] at falls
        obtain ⟨one, hone, hcall⟩ := falls
        exact ⟨one, hone, by simpa [Prepared.firing?, Option.isSome_iff_ne_none] using hcall⟩
      obtain ⟨⟨rule, call⟩, hfirst⟩ := Option.isSome_iff_exists.1 hfires
      exact ⟨text, by rw [evaluate_breaking api text patience hfirst]⟩

theorem evaluate_of_stands {prepared : List Prepared} (stands : sink.Stands prepared) (state : σ) :
    evaluate api sink patience prepared state = evaluate api .steady patience prepared state := by
  rcases stands with rfl | silent
  · rfl
  · exact evaluate_of_silent api sink patience silent state

/-- When an evaluation is settled, and with what. -/
theorem evaluate_settled_iff (prepared : List Prepared) (state : σ) (failures : List Failure) :
    (evaluate api sink patience prepared state).verdict = .settled failures ↔
      (sink.Stands prepared ∧ ∀ track ∈ tracks api prepared state, track.EndsWithin patience) ∧
        failures = (tracks api prepared state).filterMap Track.failure? := by
  by_cases stands : sink.Stands prepared
  · rw [evaluate_of_stands api sink patience stands, evaluate_steady_settled]
    simp [stands]
  · obtain ⟨text, htext⟩ := evaluate_of_not_stands api sink patience stands state
    simp [htext, stands]

theorem evaluate_state_of_stands {prepared : List Prepared} (stands : sink.Stands prepared)
    (state : σ) :
    (evaluate api sink patience prepared state).state = stateAfterAll api prepared state := by
  rw [evaluate_of_stands api sink patience stands, evaluate_steady]

theorem LogSink.stands_cons {sink : LogSink} {first : Prepared} {rest : List Prepared} :
    sink.Stands (first :: rest) ↔ sink.Stands [first] ∧ sink.Stands rest := by
  cases sink with
  | steady =>
      simp [Stands]
  | breaking text =>
      simp [Stands]

theorem evaluate_alone_settled_iff (one : Prepared) (state : σ) (failures : List Failure) :
    (evaluate api sink patience [one] state).verdict = .settled failures ↔
      let track := one.track fun call => (api.call call state).1
      (sink.Stands [one] ∧ track.EndsWithin patience) ∧ failures = track.failure?.toList := by
  rw [evaluate_settled_iff]
  cases hfailure : (one.track fun call => (api.call call state).1).failure? <;>
    simp [tracks, hfailure]

/-- The first branch may as well be evaluated alone, before the others. -/
theorem evaluate_cons_settled_iff (first : Prepared) (rest : List Prepared) (state : σ)
    (failures : List Failure) :
    (evaluate api sink patience (first :: rest) state).verdict = .settled failures ↔
      let alone := evaluate api sink patience [first] state
      ∃ own others, alone.verdict = .settled own ∧
        (evaluate api sink patience rest alone.state).verdict = .settled others ∧
        failures = own ++ others := by
  by_cases stands : sink.Stands [first]
  · -- the first rule leaves the same state behind, alone or beside the others
    have hstate : (evaluate api sink patience [first] state).state = first.stateAfter api state :=
      evaluate_state_of_stands api sink patience stands state
    have hfailures : (tracks api (first :: rest) state).filterMap Track.failure? =
        (first.track fun call => (api.call call state).1).failure?.toList ++
          (tracks api rest (first.stateAfter api state)).filterMap Track.failure? := by
      rw [tracks, List.filterMap_cons]
      cases (first.track fun call => (api.call call state).1).failure? <;> rfl
    simp only [hstate, evaluate_alone_settled_iff]
    simp only [evaluate_settled_iff, hfailures]
    rw [LogSink.stands_cons, tracks, List.forall_mem_cons]
    constructor
    · rintro ⟨⟨⟨-, hrest⟩, hends, hothers⟩, rfl⟩
      exact ⟨_, _, ⟨⟨stands, hends⟩, rfl⟩, ⟨⟨hrest, hothers⟩, rfl⟩, rfl⟩
    · rintro ⟨own, others, ⟨⟨-, hends⟩, rfl⟩, ⟨⟨hrest, hothers⟩, rfl⟩, rfl⟩
      exact ⟨⟨⟨stands, hrest⟩, hends, hothers⟩, rfl⟩
  · -- over the first rule the log breaks down either way
    constructor
    · intro h
      have := ((evaluate_settled_iff api sink patience _ state failures).1 h).1.1
      exact absurd (LogSink.stands_cons.1 this).1 stands
    · rintro ⟨own, others, halone, -⟩
      exact absurd ((evaluate_alone_settled_iff api sink patience first state own).1 halone).1.1
        stands

/-- Rules side by side are settled with what the rules one after the other are settled with. -/
theorem evaluate_settled_iff_inTurn (event : HostEvent) {trials : List Trial}
    (halone : ∀ trial ∈ trials, trial.table.prepare event = [trial.prepared]) (state : σ)
    (failures : List Failure) :
    (evaluate api sink patience (trials.map Trial.prepared) state).verdict = .settled failures ↔
      let alone := evaluateInTurn api sink patience event trials state
      (∀ single ∈ alone, ∃ own, single.verdict = .settled own) ∧
        failures = alone.flatMap fun single => single.verdict.failures := by
  -- the state is general, since each rule meets what the rules before it left behind
  induction trials generalizing state failures with
  | nil =>
      simp [evaluateInTurn, evaluate_settled_iff, LogSink.Stands, tracks]
  | cons first rest ih =>
      have hfirst : first.table.evaluate api sink patience event state =
          evaluate api sink patience [first.prepared] state := by
        rw [Table.evaluate, halone first (by simp)]
      have hrest := ih fun trial htrial => halone trial (by simp [htrial])
      rw [List.map_cons, evaluate_cons_settled_iff]
      simp only [evaluateInTurn, hfirst, hrest, List.forall_mem_cons, List.flatMap_cons]
      constructor
      · rintro ⟨own, others, hown, ⟨hall, rfl⟩, rfl⟩
        exact ⟨⟨⟨own, hown⟩, hall⟩, by rw [hown, Verdict.failures]⟩
      · rintro ⟨⟨⟨own, hown⟩, hall⟩, rfl⟩
        exact ⟨own, _, hown, ⟨hall, rfl⟩, by rw [hown, Verdict.failures]⟩

end Settled

/-! ## A table and an event -/

/-- A rule that is settled alone has the failure that its trial says, or none. -/
theorem Trial.evaluate_table_failures {σ : Type} (api : Api σ) (sink : LogSink)
    (patience : Patience) {event : HostEvent} {trial : Trial}
    (halone : trial.table.prepare event = [trial.prepared]) (state : σ) {failures : List Failure}
    (settled : (trial.table.evaluate api sink patience event state).verdict = .settled failures) :
    let answer := fun call => (api.call call state).1.ending
    (∀ fault, failures = [⟨trial.rule, fault⟩] ↔ trial.FailsWith answer fault) ∧
      (failures = [] ↔ ¬ ∃ fault, trial.FailsWith answer fault) := by
  have hfailures : failures =
      ((trial.fault? fun call => (api.call call state).1.ending).map fun fault =>
        ⟨trial.rule, fault⟩).toList := by
    rw [Table.evaluate, halone, evaluate_alone_settled_iff] at settled
    rw [settled.2, Trial.failure?_track]
  rw [hfailures]
  constructor
  · intro fault
    rw [← fault?_eq_some_iff]
    cases trial.fault? fun call => (api.call call state).1.ending <;> simp
  · simp only [← fault?_eq_some_iff]
    cases trial.fault? fun call => (api.call call state).1.ending <;> simp

/-- A service that answers a call by that call alone answers a rule the same at any time. -/
theorem Trial.evaluate_table_verdict {σ : Type} {api : Api σ} {conduct : Call → Conduct}
    (answers : api.AnswersBy conduct) (sink : LogSink) (patience : Patience) {event : HostEvent}
    {trial : Trial} (halone : trial.table.prepare event = [trial.prepared]) (before after : σ) :
    (trial.table.evaluate api sink patience event before).verdict =
      (trial.table.evaluate api sink patience event after).verdict := by
  simp only [Table.evaluate, halone]
  cases sink with
  | steady =>
      simp [evaluate_steady, tracks_of_answersBy answers]
  | breaking text =>
      cases hfirst : [trial.prepared].findSome? Prepared.firing? with
      | none =>
          have silent : ∀ one ∈ [trial.prepared], one.call? = none := by
            simpa [Prepared.firing?] using hfirst
          simp [evaluate_of_silent api _ patience silent, evaluate_steady,
            tracks_of_answersBy answers]
      | some first =>
          simp [evaluate_breaking api text patience hfirst]

theorem evaluateInTurn_verdicts {σ : Type} {api : Api σ} {conduct : Call → Conduct}
    (answers : api.AnswersBy conduct) (sink : LogSink) (patience : Patience) {event : HostEvent}
    {trials : List Trial}
    (halone : ∀ trial ∈ trials, trial.table.prepare event = [trial.prepared]) (start state : σ) :
    (evaluateInTurn api sink patience event trials start).map (·.verdict) =
      trials.map fun trial => (trial.table.evaluate api sink patience event state).verdict := by
  induction trials generalizing start with
  | nil =>
      rfl
  | cons first rest ih =>
      have hfirst := Trial.evaluate_table_verdict answers sink patience (halone first (by simp))
        start state
      have hrest := ih fun trial htrial => halone trial (by simp [htrial])
      simp [evaluateInTurn, hfirst, hrest]

/-- The failures of all rules are those of each rule alone, in the order of the table. -/
theorem Table.evaluate_aggregates {σ : Type} (api : Api σ) (sink : LogSink) (patience : Patience)
    (table : Table) (event : HostEvent) (state : σ) :
    let evaluation := table.evaluate api sink patience event state
    let alone := evaluateInTurn api sink patience event (table.trials event) state
    -- the evaluation ends with the failures of the rules one by one
    (∀ failures, evaluation.verdict = .settled failures ↔
      (∀ single ∈ alone, ∃ own, single.verdict = .settled own) ∧
        failures = alone.flatMap fun single => single.verdict.failures) ∧
    -- it ends well if and only if every rule does
    (evaluation.verdict = .settled [] ↔ ∀ single ∈ alone, single.verdict = .settled []) ∧
    -- a rule alone has one failure, told by its name, or none
    (∀ trial ∈ table.trials event, ∀ before failures,
      (trial.table.evaluate api sink patience event before).verdict = .settled failures →
      let answer := fun call => (api.call call before).1.ending
      (∀ fault, failures = [⟨trial.rule, fault⟩] ↔ trial.FailsWith answer fault) ∧
        (failures = [] ↔ ¬ ∃ fault, trial.FailsWith answer fault)) ∧
    -- the turn of a rule does not matter to a service that answers a call by that call alone
    ∀ conduct, api.AnswersBy conduct →
      alone.map (·.verdict) = (table.trials event).map fun trial =>
        (trial.table.evaluate api sink patience event state).verdict := by
  intro evaluation alone
  have halone : ∀ trial ∈ table.trials event, trial.table.prepare event = [trial.prepared] :=
    fun trial htrial => Trial.prepare_table htrial
  have hsettled : ∀ failures, evaluation.verdict = .settled failures ↔
      (∀ single ∈ alone, ∃ own, single.verdict = .settled own) ∧
        failures = alone.flatMap fun single => single.verdict.failures := by
    intro failures
    rw [← evaluate_settled_iff_inTurn api sink patience event halone state failures,
      ← table.prepare_eq_trials]
    rfl
  refine ⟨hsettled, ?_, ?_, ?_⟩
  · rw [hsettled]
    constructor
    · rintro ⟨hall, hnil⟩ single hsingle
      obtain ⟨own, hown⟩ := hall single hsingle
      have hempty := List.flatMap_eq_nil_iff.1 hnil.symm single hsingle
      rw [hown, Verdict.failures] at hempty
      rw [hown, hempty]
    · intro hall
      refine ⟨fun single hsingle => ⟨[], hall single hsingle⟩, ?_⟩
      refine (List.flatMap_eq_nil_iff.2 fun single hsingle => ?_).symm
      rw [hall single hsingle, Verdict.failures]
  · intro trial htrial before failures settled
    exact Trial.evaluate_table_failures api sink patience (halone trial htrial) before settled
  · intro conduct answers
    exact evaluateInTurn_verdicts answers sink patience halone state state

namespace Aggregation

/-- A rule without an output. -/
def unfinished : ActionRule := ⟨"unfinished", some ⟨"never"⟩, none⟩

/-- It stands between two rules that fire. -/
def three : Table :=
  ⟨[.of "left" ⟨"scans"⟩ (Table.flag "left"), unfinished,
    .of "right" ⟨"scans"⟩ (Table.flag "right")], []⟩

/-- The first call fails late, the other one succeeds at once. -/
def late : List ScriptLine := [⟨"left", 3, fun _ => some (.failed (.other "down"))⟩]

end Aggregation

open Isolation Aggregation in
/-- The call that ends last is told first. -/
theorem Aggregation.late_failure_is_told_first :
    let alone := evaluateInTurn (Scripted.api late) .steady (.rounds 100) scan
      (three.trials scan) ()
    let failures : List Failure :=
      [⟨"left", .remote (.other "down")⟩, ⟨"unfinished", .invalid unfinished.toJson .noOutput⟩]
    (alone.flatMap fun single => single.verdict.failures) = failures ∧
      (three.evaluate (Scripted.api late) .steady (.rounds 100) scan ()).verdict =
        .settled failures := by
  intro alone failures
  obtain ⟨hsettled, -⟩ := Table.evaluate_aggregates (Scripted.api late) .steady (.rounds 100)
    three scan ()
  have hfailures : (alone.flatMap fun single => single.verdict.failures) = failures := by
    decide +kernel
  have hverdicts : alone.map (·.verdict) =
      [.settled [⟨"left", .remote (.other "down")⟩],
        .settled [⟨"unfinished", .invalid unfinished.toJson .noOutput⟩], .settled []] := by
    decide +kernel
  refine ⟨hfailures, (hsettled failures).2 ⟨fun single hsingle => ?_, hfailures.symm⟩⟩
  have hverdict : single.verdict ∈ alone.map (·.verdict) := List.mem_map_of_mem hsingle
  rw [hverdicts] at hverdict
  simp only [List.mem_cons, List.not_mem_nil, or_false] at hverdict
  rcases hverdict with h | h | h <;> exact ⟨_, h⟩

end EventRules
