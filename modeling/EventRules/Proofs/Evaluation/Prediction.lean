import Mathlib.Data.List.InsertIdx
import Std.Data.String.ToNat
import EventRules.Proofs.Evaluation.Beside
import EventRules.Proofs.Evaluation.Origin
import EventRules.Proofs.Evaluation.Validity
import EventRules.Proofs.Rule.Report

/-!
# Prediction — what the report of a table says about its evaluations

The report of a table is made without an event.  A rule that it lists fails for every event of its
kind, with the message of the report, and is no trouble to the others; a rule that it does not list
is found to be invalid only where one of its texts is evaluated.

* `Report.mem_errorsOf_iff` — the errors of one list; `Table.mem_errors_iff` — those of a place;
* `Table.without` — a table without one of its rules;
* `Table.report_predicts` — the report and the evaluations of any event.
-/

namespace EventRules

/-! ## What is listed -/

namespace Report

variable {κ : Type} [Condition κ]

theorem path_inj {list : String} {i j : Nat} (h : path list i = path list j) : i = j := by
  rw [path, path, String.append_left_inj, String.append_assoc, String.append_assoc,
    String.append_right_inj, String.append_right_inj] at h
  exact Nat.repr_inj.1 h

/-- The paths of the two lists differ in their first character. -/
theorem path_lists_ne (i j : Nat) : path Table.actionList i ≠ path Table.propertyList j := by
  intro h
  have hfirst := congrArg (fun text => text.toList.head?) h
  have haction : Table.actionList.toList.head? = some 'a' := by decide
  have hproperty : Table.propertyList.toList.head? = some 'p' := by decide
  simp [path, haction, hproperty] at hfirst

/-- The errors of a list are those of its rules that are not valid. -/
theorem mem_errorsOf_iff {list : String} {rules : List (Rule κ)} {error : ReportedError} :
    error ∈ errorsOf list rules ↔
      ∃ i rule fault, rules[i]? = some rule ∧ rule.validate = .error fault ∧
        error = ⟨path list i, rule.name, fault.message⟩ := by
  rw [errorsOf, List.mem_filterMap]
  constructor
  · rintro ⟨⟨rule, i⟩, hmem, herror⟩
    obtain ⟨fault, hfault, rfl⟩ := Option.map_eq_some_iff.1 herror
    exact ⟨i, rule, fault, List.mem_zipIdx_iff_getElem?.1 hmem, faultOf_eq_some_iff.1 hfault, rfl⟩
  · rintro ⟨i, rule, fault, hrule, hfault, rfl⟩
    exact ⟨(rule, i), List.mem_zipIdx_iff_getElem?.2 hrule,
      Option.map_eq_some_iff.2 ⟨fault, faultOf_eq_some_iff.2 hfault, rfl⟩⟩

/-- The errors at the place of a rule: one if it is not valid, and else none. -/
theorem mem_errorsOf_at {list : String} {rules : List (Rule κ)} {place : Nat} {rule : Rule κ}
    (hplace : rules[place]? = some rule) {error : ReportedError}
    (hpath : error.path = path list place) :
    error ∈ errorsOf list rules ↔
      ∃ fault, faultOf rule.validate = some fault ∧
        error = ⟨path list place, rule.name, fault.message⟩ := by
  rw [mem_errorsOf_iff]
  constructor
  · rintro ⟨i, own, fault, hi, hfault, herror⟩
    have hsame : i = place := by
      rw [herror] at hpath
      exact path_inj hpath
    subst hsame
    obtain rfl : own = rule := Option.some.inj (hi.symm.trans hplace)
    exact ⟨fault, faultOf_eq_some_iff.2 hfault, herror⟩
  · rintro ⟨fault, hfault, herror⟩
    exact ⟨place, rule, fault, hplace, faultOf_eq_some_iff.1 hfault, herror⟩

theorem not_mem_errorsOf {list : String} {rules : List (Rule κ)} {error : ReportedError}
    (hpath : ∀ i, path list i ≠ error.path) : error ∉ errorsOf list rules := by
  rw [mem_errorsOf_iff]
  rintro ⟨i, rule, fault, -, -, rfl⟩
  exact hpath _ rfl

end Report

/-- The path of a rule that looks at an event, in the reports of its table. -/
def HostEvent.path : HostEvent → Nat → String
  | .actionCreated _, place => Report.path Table.actionList place
  | .thngPropertiesChanged _, place => Report.path Table.propertyList place

/-- The errors at the place of a rule: one if it is rejected, and else none. -/
theorem Table.mem_errors_iff {table : Table} {event : HostEvent} {place : Nat} {trial : Trial}
    (hplace : (table.trials event)[place]? = some trial) {error : ReportedError}
    (hpath : error.path = event.path place) :
    error ∈ table.report.errors ↔
      ∃ fault, trial.rejection? = some fault ∧
        error = ⟨event.path place, trial.rule, fault.message⟩ := by
  rw [report_errors, List.mem_append]
  cases event with
  | actionCreated event =>
      rw [trials, List.getElem?_map, Option.map_eq_some_iff] at hplace
      obtain ⟨rule, hrule, rfl⟩ := hplace
      have hother : error ∉ Report.errorsOf propertyList table.propertyRules :=
        Report.not_mem_errorsOf fun i h =>
          Report.path_lists_ne place i (h.trans hpath).symm
      rw [or_iff_left hother, Report.mem_errorsOf_at hrule hpath]
      rfl
  | thngPropertiesChanged event =>
      rw [trials, List.getElem?_map, Option.map_eq_some_iff] at hplace
      obtain ⟨rule, hrule, rfl⟩ := hplace
      have hother : error ∉ Report.errorsOf actionList table.actionRules :=
        Report.not_mem_errorsOf fun i h =>
          Report.path_lists_ne i place (h.trans hpath)
      rw [or_iff_right hother, Report.mem_errorsOf_at hrule hpath]
      rfl

/-! ## A table without one of its rules -/

/-- The table without the rule in one place, of those that look at an event. -/
def Table.without (table : Table) : HostEvent → Nat → Table
  | .actionCreated _, place =>
      { table with actionRules := table.actionRules.eraseIdx place }
  | .thngPropertiesChanged _, place =>
      { table with propertyRules := table.propertyRules.eraseIdx place }

theorem Table.prepare_without (table : Table) (event : HostEvent) (place : Nat) :
    (table.without event place).prepare event = (table.prepare event).eraseIdx place := by
  cases event <;> simp [without, prepare, List.eraseIdx_map]

/-- What the rules of a table prepare is what the others do, and in its place what one does. -/
theorem Table.prepare_eq_insertIdx {table : Table} {event : HostEvent} {place : Nat}
    {one : Prepared} (hplace : (table.prepare event)[place]? = some one) :
    place ≤ ((table.without event place).prepare event).length ∧
      table.prepare event = ((table.without event place).prepare event).insertIdx place one := by
  obtain ⟨hlt, hone⟩ := List.getElem?_eq_some_iff.1 hplace
  rw [table.prepare_without]
  refine ⟨?_, ?_⟩
  · rw [List.length_eraseIdx_of_lt hlt]
    exact Nat.le_sub_one_of_lt hlt
  · rw [← hone, List.insertIdx_eraseIdx_getElem hlt]

/-! ## The report and the evaluations -/

/-- What is wrong with a rule before any event. -/
def Defect.IsStatic : Defect → Prop
  | .unrendered _ => False
  | _ => True

/-- Validation finds only what is wrong before any event. -/
theorem Rule.isStatic_of_validate {κ : Type} [Condition κ] {rule : Rule κ} {written : Json}
    {defect : Defect} (h : rule.validate = .error (.invalid written defect)) :
    defect.IsStatic := by
  unfold validate at h
  split at h
  · cases h
    trivial
  · cases h
    trivial
  · split at h
    · cases h
    · cases h
      trivial

theorem Trial.isStatic_of_rejection {trial : Trial} {written : Json} {defect : Defect}
    (h : trial.rejection? = some (.invalid written defect)) : defect.IsStatic := by
  cases trial with
  | action rule subject =>
      exact Rule.isStatic_of_validate (faultOf_eq_some_iff.1 h)
  | property rule event =>
      exact Rule.isStatic_of_validate (faultOf_eq_some_iff.1 h)

/-- A rule is rejected if and only if what it prepares says what is wrong before any event. -/
theorem Trial.rejection?_eq_some_iff {trial : Trial} {written : Json} {defect : Defect} :
    trial.rejection? = some (.invalid written defect) ↔
      trial.prepare = .error (.invalid written defect) ∧ defect.IsStatic := by
  constructor
  · intro h
    exact ⟨prepare_eq_error_iff.2 (failsEarly_of_rejection h), isStatic_of_rejection h⟩
  · rintro ⟨hprepare, hstatic⟩
    cases hrejection : trial.rejection? with
    | none =>
        obtain ⟨_, _, _, _, _, _, _, rfl, _⟩ := invalid_of_accepted hrejection hprepare
        cases hstatic
    | some fault =>
        have hown := prepare_eq_error_iff.2 (failsEarly_of_rejection hrejection)
        rw [hprepare] at hown
        cases hown
        rfl

/-- The report of a table and its evaluations: what it lists fails for every event of the kind, and
what it does not list is found to be invalid only where a text is evaluated. -/
theorem Table.report_predicts {σ : Type} (api : Api σ) (sink : LogSink) (patience : Patience)
    (table : Table) (event : HostEvent) (state : σ) {place : Nat} {trial : Trial}
    (hplace : (table.trials event)[place]? = some trial) :
    let history := table.history api sink patience event state
    let listed := fun error => error ∈ table.report.errors ∧ error.path = event.path place
    -- a rule is listed if and only if its branch finds it to be invalid before it looks at the event
    (sink.Stands (table.prepare event) →
      ((∃ error, listed error) ↔ ∃ round written defect, defect.IsStatic ∧
        history.result? place round = some (.error (.invalid written defect)))) ∧
    (∀ error, listed error → ∃ fault,
      -- then it fails in the first round, and the failure is told by the name and message reported
      error = ⟨event.path place, trial.rule, fault.message⟩ ∧
      (sink.Stands (table.prepare event) →
        history.result? place 1 = some (.error fault)) ∧
      -- nothing is seen of its branch, no call above all
      history.traceOf place = [] ∧
      -- without the rule all would go the same way, but for its failure in the verdict
      let apart := table.without event place
      EvaluationBeside ⟨trial.rule, fault⟩ (apart.evaluate api sink patience event state)
        (table.evaluate api sink patience event state) ∧
      ∀ other, history.traceOf (placeBeside place other) =
          (apart.history api sink patience event state).traceOf other ∧
        ∀ round, history.result? (placeBeside place other) round =
          (apart.history api sink patience event state).result? other round) ∧
    -- a rule that is not listed is invalid only for an event that selects it, by one of its texts
    ((∀ error, ¬ listed error) → ∀ round written defect,
      history.result? place round = some (.error (.invalid written defect)) →
      ∃ output target context fault, trial.Selects output target context ∧
        defect = .unrendered fault ∧ ∃ source ∈ output.tree.value.texts,
          OutputTemplate.FailsInEvaluation (.ofJson context) source fault) := by
  intro history listed
  have hone : (table.prepare event)[place]? = some trial.prepared := by
    rw [table.prepare_eq_trials, List.getElem?_map, hplace]
    rfl
  have hlisted : (∃ error, listed error) ↔ ∃ fault, trial.rejection? = some fault := by
    constructor
    · rintro ⟨error, herror, hpath⟩
      obtain ⟨fault, hfault, -⟩ := (Table.mem_errors_iff hplace hpath).1 herror
      exact ⟨fault, hfault⟩
    · rintro ⟨fault, hfault⟩
      exact ⟨⟨event.path place, trial.rule, fault.message⟩,
        (Table.mem_errors_iff hplace rfl).2 ⟨fault, hfault, rfl⟩, rfl⟩
  have hprepared : ∀ {round written defect},
      history.result? place round = some (.error (.invalid written defect)) →
      trial.prepare = .error (.invalid written defect) := by
    intro round written defect h
    obtain ⟨one, hown, hresult⟩ := History.fault_of_result? api sink patience h
    obtain rfl : trial.prepared = one := Option.some.inj (hone.symm.trans hown)
    exact hresult
  refine ⟨fun stands => ?_, ?_, ?_⟩
  · rw [hlisted]
    constructor
    · rintro ⟨fault, hfault⟩
      obtain ⟨defect, rfl⟩ := Trial.rejection?_eq_invalid hfault
      obtain ⟨hprepare, hstatic⟩ := Trial.rejection?_eq_some_iff.1 hfault
      exact ⟨1, trial.written, defect, hstatic,
        History.result?_of_faulted api sink patience stands hone hprepare state⟩
    · rintro ⟨round, written, defect, hstatic, h⟩
      exact ⟨_, Trial.rejection?_eq_some_iff.2 ⟨hprepared h, hstatic⟩⟩
  · rintro error ⟨herror, hpath⟩
    obtain ⟨fault, hfault, htold⟩ := (Table.mem_errors_iff hplace hpath).1 herror
    have hprepare := Trial.prepare_eq_error_iff.2 (Trial.failsEarly_of_rejection hfault)
    have hfaulted : trial.prepared = ⟨trial.rule, .error fault⟩ := by
      rw [Trial.prepared, hprepare]
    obtain ⟨hle, hinsert⟩ := Table.prepare_eq_insertIdx hone
    rw [hfaulted] at hinsert
    have hevaluation := evaluate_insertIdx api sink patience hle trial.rule fault state
    have hhistory := history_insertIdx api sink patience hle trial.rule fault state
    rw [← hinsert] at hevaluation hhistory
    exact ⟨fault, htold,
      fun stands => History.result?_of_faulted api sink patience stands hone hprepare state,
      History.traceOf_faulted hhistory, hevaluation,
      fun other => ⟨History.traceOf_beside hhistory other,
        fun round => History.result?_beside hhistory other round⟩⟩
  · intro unlisted round written defect h
    have accepted : trial.rejection? = none := by
      cases hrejection : trial.rejection? with
      | none =>
          rfl
      | some fault =>
          obtain ⟨error, herror⟩ := hlisted.2 ⟨fault, hrejection⟩
          exact absurd herror (unlisted error)
    obtain ⟨output, target, context, fault, selects, -, -, hdefect, hsource⟩ :=
      Trial.invalid_of_accepted accepted (hprepared h)
    exact ⟨output, target, context, fault, selects, hdefect, hsource⟩

open Isolation Aggregation in
/-- The rule between the two that fire is listed, and fails with that message. -/
theorem Prediction.unfinished_is_foretold :
    let history := three.history (Scripted.api late) .steady (.rounds 100) scan ()
    let message := "Rule is invalid (missing `create`): " ++ unfinished.toJson.compact
    three.report.errors = [⟨"action_rules[1]", "unfinished", message⟩] ∧
    ∃ fault : RuleFault, fault.message = message ∧
      history.result? 1 1 = some (.error fault) ∧ history.traceOf 1 = [] := by
  intro history message
  have herrors : three.report.errors = [⟨"action_rules[1]", "unfinished", message⟩] := by
    decide +kernel
  have hplace : (three.trials scan)[1]? = some (.action unfinished ⟨"scans", some "T1", []⟩) :=
    rfl
  obtain ⟨-, hlisted, -⟩ :=
    Table.report_predicts (Scripted.api late) .steady (.rounds 100) three scan () hplace
  obtain ⟨fault, htold, hresult, htrace, -⟩ :=
    hlisted ⟨"action_rules[1]", "unfinished", message⟩ ⟨by rw [herrors]; simp, by decide +kernel⟩
  exact ⟨herrors, fault, (congrArg ReportedError.message htold).symm, hresult (Or.inl rfl), htrace⟩

end EventRules
