import EventRules.Evaluation.Prepare
import EventRules.Proofs.Template.Output

/-!
# Trial — one rule put to one event

What a rule leads to is decided by one question after the other: is the rule whole, does its condition
hold, is there an entity to receive the output, do all texts render, is the outcome a payload.  The
relations below give the answers one by one; they are exactly what the rule has prepared.

* `Trial.Fires` — the rule begins a call; `Trial.FailsEarly` — it fails before; `Trial.Passes` — neither;
* `Trial.prepare_eq_call_iff`, `Trial.prepare_eq_error_iff`, `Trial.prepare_eq_none_iff` — that they
  are what the rule prepares.
-/

namespace EventRules

/-! ## Whole rules -/

namespace Rule

variable {κ : Type} [Condition κ]

/-- A rule with both parts and an output whose texts are right in their notation. -/
structure IsWhole (rule : Rule κ) (condition : κ) (output : OutputTemplate) : Prop where
  hasCondition : rule.condition = some condition
  hasOutput : rule.output = some output
  compiles : output.check = .ok ()

theorem validate_eq_ok_iff {rule : Rule κ} {condition : κ} {output : OutputTemplate} :
    rule.validate = .ok (condition, output) ↔ rule.IsWhole condition output := by
  rcases rule with ⟨name, condition?, output?⟩
  constructor
  · intro h
    cases condition? with
    | none =>
        cases h
    | some own =>
        cases output? with
        | none =>
            cases h
        | some found =>
            cases hcheck : found.check with
            | error fault =>
                simp [validate, hcheck] at h
            | ok done =>
                have : own = condition ∧ found = output := by
                  simpa [validate, hcheck] using h
                rcases this with ⟨rfl, rfl⟩
                exact ⟨rfl, rfl, hcheck⟩
  · rintro ⟨hcondition, houtput, hcheck⟩
    cases hcondition
    cases houtput
    simp [validate, hcheck]

/-- What validation finds is told about the rule in its written form. -/
theorem validate_error {rule : Rule κ} {fault : RuleFault} (h : rule.validate = .error fault) :
    ∃ defect, fault = .invalid rule.toJson defect := by
  unfold validate at h
  split at h
  · exact ⟨_, by cases h; rfl⟩
  · exact ⟨_, by cases h; rfl⟩
  · split at h
    · cases h
    · exact ⟨_, by cases h; rfl⟩

theorem produce_eq (rule : Rule κ) (output : OutputTemplate) (context : Json) :
    rule.produce output context =
      match output.renderTree context with
      | .error fault => .error (.invalid rule.toJson (.unrendered fault))
      | .ok value =>
          match Payload.classify value with
          | .ok payload => .ok payload
          | .error problem => .error (.unclassifiable problem) := by
  rw [produce, OutputTemplate.render_eq]
  cases htree : output.renderTree context with
  | error fault =>
      obtain ⟨source, message, rfl⟩ := OutputTemplate.renderTree_error htree
      rfl
  | ok value =>
      cases hclass : Payload.classify value <;> simp [hclass]

end Rule

theorem Action.target?_eq_some_iff {action : Action} {target : String} :
    action.target? = some target ↔ action.thng = some target ∧ target ≠ "" := by
  simp [Action.target?, Option.filter_eq_some_iff]

theorem Action.target?_eq_none_iff {action : Action} :
    action.target? = none ↔ action.thng = none ∨ action.thng = some "" := by
  cases hthng : action.thng with
  | none =>
      simp [Action.target?, hthng]
  | some name =>
      simp [Action.target?, hthng]

/-! ## Trials -/

/-- One rule and one event of its kind. -/
inductive Trial where
  | action (rule : ActionRule) (subject : Action)
  | property (rule : PropertyRule) (event : PropertyChangeEvent)

/-- The rules of the event's kind, in the order of the table. -/
def Table.trials (table : Table) : HostEvent → List Trial
  | .actionCreated event => table.actionRules.map fun rule => .action rule event.action
  | .thngPropertiesChanged event => table.propertyRules.map fun rule => .property rule event

namespace Trial

def rule : Trial → String
  | .action rule _ => rule.name
  | .property rule _ => rule.name

/-- The rule as it is written. -/
def written : Trial → Json
  | .action rule _ => rule.toJson
  | .property rule _ => rule.toJson

/-- The rule as a table of its own. -/
def table : Trial → Table
  | .action rule _ => ⟨[rule], []⟩
  | .property rule _ => ⟨[], [rule]⟩

def prepare : Trial → Except RuleFault (Option Call)
  | .action rule subject => ActionRule.prepare rule subject
  | .property rule event => PropertyRule.prepare rule event

def prepared (trial : Trial) : Prepared := ⟨trial.rule, trial.prepare⟩

/-! ## The questions and their answers -/

/-- The rule is whole, its condition holds, and there is an entity: its output, that entity, and what
the output can refer to. -/
inductive Selects : Trial → OutputTemplate → String → Json → Prop
  | action {rule : ActionRule} {subject : Action} {condition : ActionCondition}
      {output : OutputTemplate} {target : String} :
      rule.IsWhole condition output → condition.holds subject = true →
      subject.thng = some target → target ≠ "" →
      Selects (.action rule subject) output target (actionContext subject target)
  | property {rule : PropertyRule} {event : PropertyChangeEvent} {condition : PropertyCondition}
      {output : OutputTemplate} {key : String} {change : Change} :
      rule.IsWhole condition output →
      event.changes.entries.find? (fun (key, change) => condition.holds key change.newValue) =
        some (key, change) →
      Selects (.property rule event) output event.thng
        (propertyContext key change.newValue event.thng)

/-- The rule begins a call. -/
inductive Fires : Trial → Call → Prop
  | intro {trial : Trial} {output : OutputTemplate} {target : String} {context value : Json}
      {payload : Payload} :
      trial.Selects output target context → output.renderTree context = .ok value →
      Payload.classify value = .ok payload → Fires trial ⟨target, payload⟩

/-- The rule is whole, but its condition does not hold. -/
inductive Passes : Trial → Prop
  | action {rule : ActionRule} {subject : Action} {condition : ActionCondition}
      {output : OutputTemplate} :
      rule.IsWhole condition output → condition.holds subject = false →
      Passes (.action rule subject)
  | property {rule : PropertyRule} {event : PropertyChangeEvent} {condition : PropertyCondition}
      {output : OutputTemplate} :
      rule.IsWhole condition output →
      (∀ key change, (key, change) ∈ event.changes.entries →
        condition.holds key change.newValue = false) →
      Passes (.property rule event)

/-- The rule fails before it begins a call. -/
inductive FailsEarly : Trial → RuleFault → Prop
  | invalidAction {rule : ActionRule} {subject : Action} {defect : Defect} :
      rule.validate = .error (.invalid rule.toJson defect) →
      FailsEarly (.action rule subject) (.invalid rule.toJson defect)
  | invalidProperty {rule : PropertyRule} {event : PropertyChangeEvent} {defect : Defect} :
      rule.validate = .error (.invalid rule.toJson defect) →
      FailsEarly (.property rule event) (.invalid rule.toJson defect)
  | missingTarget {rule : ActionRule} {subject : Action} {condition : ActionCondition}
      {output : OutputTemplate} :
      rule.IsWhole condition output → condition.holds subject = true →
      subject.thng = none ∨ subject.thng = some "" →
      FailsEarly (.action rule subject) (.missingTarget rule.name)
  | unrendered {trial : Trial} {output : OutputTemplate} {target : String} {context : Json}
      {fault : OutputFault} :
      trial.Selects output target context → output.renderTree context = .error fault →
      FailsEarly trial (.invalid trial.written (.unrendered fault))
  | unclassifiable {trial : Trial} {output : OutputTemplate} {target : String}
      {context value : Json} {problem : Unclassifiable} :
      trial.Selects output target context → output.renderTree context = .ok value →
      Payload.classify value = .error problem → FailsEarly trial (.unclassifiable problem)

/-! ## What a trial prepares -/

theorem prepare_action_of_whole {rule : ActionRule} {subject : Action}
    {condition : ActionCondition} {output : OutputTemplate} (whole : rule.IsWhole condition output) :
    prepare (.action rule subject) =
      if condition.holds subject then
        match subject.target? with
        | none => .error (.missingTarget rule.name)
        | some target =>
            (rule.produce output (actionContext subject target)).map fun payload =>
              some ⟨target, payload⟩
      else .ok none := by
  have hvalid := Rule.validate_eq_ok_iff.2 whole
  simp only [prepare, ActionRule.prepare, hvalid, bind, Except.bind]
  cases condition.holds subject with
  | false =>
      rfl
  | true =>
      cases subject.target? with
      | none =>
          rfl
      | some target =>
          cases rule.produce output (actionContext subject target) <;> rfl

theorem prepare_property_of_whole {rule : PropertyRule} {event : PropertyChangeEvent}
    {condition : PropertyCondition} {output : OutputTemplate}
    (whole : rule.IsWhole condition output) :
    prepare (.property rule event) =
      match condition.firstMatch? event.changes with
      | none => .ok none
      | some (key, change) =>
          (rule.produce output (propertyContext key change.newValue event.thng)).map fun payload =>
            some ⟨event.thng, payload⟩ := by
  have hvalid := Rule.validate_eq_ok_iff.2 whole
  simp only [prepare, PropertyRule.prepare, hvalid, bind, Except.bind]
  cases condition.firstMatch? event.changes with
  | none =>
      rfl
  | some found =>
      cases rule.produce output (propertyContext found.1 found.2.newValue event.thng) <;> rfl

/-- Once a rule is selected, its output alone decides. -/
theorem prepare_of_selects {trial : Trial} {output : OutputTemplate} {target : String}
    {context : Json} (selects : trial.Selects output target context) :
    trial.prepare =
      match output.renderTree context with
      | .error fault => .error (.invalid trial.written (.unrendered fault))
      | .ok value =>
          match Payload.classify value with
          | .ok payload => .ok (some ⟨target, payload⟩)
          | .error problem => .error (.unclassifiable problem) := by
  cases selects with
  | @action rule subject condition output target whole holds hthng hne =>
      have htarget := Action.target?_eq_some_iff.2 ⟨hthng, hne⟩
      simp only [prepare_action_of_whole whole, holds, htarget, Rule.produce_eq, if_true]
      cases output.renderTree (actionContext subject target) with
      | error fault =>
          rfl
      | ok value =>
          cases hclass : Payload.classify value <;> simp [hclass, Except.map]
  | @property rule event condition output key change whole hfind =>
      have hfirst : condition.firstMatch? event.changes = some (key, change) := hfind
      simp only [prepare_property_of_whole whole, hfirst, Rule.produce_eq]
      cases output.renderTree (propertyContext key change.newValue event.thng) with
      | error fault =>
          rfl
      | ok value =>
          cases hclass : Payload.classify value <;> simp [hclass, Except.map]

theorem prepare_of_fires {trial : Trial} {call : Call} (fires : trial.Fires call) :
    trial.prepare = .ok (some call) := by
  cases fires with
  | intro selects hvalue hpayload =>
      simp [prepare_of_selects selects, hvalue, hpayload]

theorem prepare_of_passes {trial : Trial} (passes : trial.Passes) : trial.prepare = .ok none := by
  cases passes with
  | action whole holds =>
      simp [prepare_action_of_whole whole, holds]
  | @property rule event condition output whole hnone =>
      have hfirst : condition.firstMatch? event.changes = none := by
        rw [PropertyCondition.firstMatch?, List.find?_eq_none]
        rintro ⟨key, change⟩ hmem
        simp [hnone key change hmem]
      simp [prepare_property_of_whole whole, hfirst]

theorem prepare_of_failsEarly {trial : Trial} {fault : RuleFault}
    (fails : trial.FailsEarly fault) : trial.prepare = .error fault := by
  cases fails with
  | invalidAction hinvalid =>
      simp [prepare, ActionRule.prepare, hinvalid, bind, Except.bind]
  | invalidProperty hinvalid =>
      simp [prepare, PropertyRule.prepare, hinvalid, bind, Except.bind]
  | missingTarget whole holds hthng =>
      simp [prepare_action_of_whole whole, holds, Action.target?_eq_none_iff.2 hthng]
  | unrendered selects hfault =>
      simp [prepare_of_selects selects, hfault]
  | unclassifiable selects hvalue hproblem =>
      simp [prepare_of_selects selects, hvalue, hproblem]

/-- A selected rule either fires or fails. -/
theorem decided_of_selects {trial : Trial} {output : OutputTemplate} {target : String}
    {context : Json} (selects : trial.Selects output target context) :
    (∃ fault, trial.FailsEarly fault) ∨ ∃ call, trial.Fires call := by
  cases hvalue : output.renderTree context with
  | error fault =>
      exact Or.inl ⟨_, .unrendered selects hvalue⟩
  | ok value =>
      cases hclass : Payload.classify value with
      | error problem =>
          exact Or.inl ⟨_, .unclassifiable selects hvalue hclass⟩
      | ok payload =>
          exact Or.inr ⟨_, .intro selects hvalue hclass⟩

/-- Every trial has one of the three outcomes. -/
theorem decided (trial : Trial) :
    (∃ fault, trial.FailsEarly fault) ∨ trial.Passes ∨ ∃ call, trial.Fires call := by
  -- the questions are asked in the order in which a rule is prepared
  cases trial with
  | action rule subject =>
      cases hvalid : rule.validate with
      | error fault =>
          obtain ⟨defect, rfl⟩ := Rule.validate_error hvalid
          exact Or.inl ⟨_, .invalidAction hvalid⟩
      | ok both =>
          have whole := Rule.validate_eq_ok_iff.1 hvalid
          cases holds : both.1.holds subject with
          | false =>
              exact Or.inr (Or.inl (.action whole holds))
          | true =>
              cases htarget : subject.target? with
              | none =>
                  exact Or.inl ⟨_, .missingTarget whole holds (Action.target?_eq_none_iff.1 htarget)⟩
              | some target =>
                  obtain ⟨hthng, hne⟩ := Action.target?_eq_some_iff.1 htarget
                  rcases decided_of_selects (.action whole holds hthng hne) with fails | fires
                  · exact Or.inl fails
                  · exact Or.inr (Or.inr fires)
  | property rule event =>
      cases hvalid : rule.validate with
      | error fault =>
          obtain ⟨defect, rfl⟩ := Rule.validate_error hvalid
          exact Or.inl ⟨_, .invalidProperty hvalid⟩
      | ok both =>
          have whole := Rule.validate_eq_ok_iff.1 hvalid
          cases hfirst : both.1.firstMatch? event.changes with
          | none =>
              refine Or.inr (Or.inl (.property whole fun key change hmem => ?_))
              have := List.find?_eq_none.1 hfirst (key, change) hmem
              simpa using this
          | some found =>
              rcases decided_of_selects (.property whole hfirst) with fails | fires
              · exact Or.inl fails
              · exact Or.inr (Or.inr fires)

theorem prepare_eq_error_iff {trial : Trial} {fault : RuleFault} :
    trial.prepare = .error fault ↔ trial.FailsEarly fault := by
  refine ⟨fun h => ?_, prepare_of_failsEarly⟩
  rcases trial.decided with ⟨found, fails⟩ | passes | ⟨call, fires⟩
  · have : found = fault := by
      simpa [prepare_of_failsEarly fails] using h
    exact this ▸ fails
  · simp [prepare_of_passes passes] at h
  · simp [prepare_of_fires fires] at h

theorem prepare_eq_none_iff {trial : Trial} : trial.prepare = .ok none ↔ trial.Passes := by
  refine ⟨fun h => ?_, prepare_of_passes⟩
  rcases trial.decided with ⟨found, fails⟩ | passes | ⟨call, fires⟩
  · simp [prepare_of_failsEarly fails] at h
  · exact passes
  · simp [prepare_of_fires fires] at h

theorem prepare_eq_call_iff {trial : Trial} {call : Call} :
    trial.prepare = .ok (some call) ↔ trial.Fires call := by
  refine ⟨fun h => ?_, prepare_of_fires⟩
  rcases trial.decided with ⟨found, fails⟩ | passes | ⟨own, fires⟩
  · simp [prepare_of_failsEarly fails] at h
  · simp [prepare_of_passes passes] at h
  · have : own = call := by
      simpa [prepare_of_fires fires] using h
    exact this ▸ fires

end Trial

/-! ## Trials of a table -/

theorem Table.prepare_eq_trials (table : Table) (event : HostEvent) :
    table.prepare event = (table.trials event).map Trial.prepared := by
  cases event with
  | actionCreated event =>
      simp [prepare, trials, Trial.prepared, Trial.rule, Trial.prepare, Function.comp_def]
  | thngPropertiesChanged event =>
      simp [prepare, trials, Trial.prepared, Trial.rule, Trial.prepare, Function.comp_def]

/-- A rule alone is tried as it is among the others. -/
theorem Trial.prepare_table {table : Table} {event : HostEvent} {trial : Trial}
    (htrial : trial ∈ table.trials event) : trial.table.prepare event = [trial.prepared] := by
  cases event with
  | actionCreated event =>
      obtain ⟨rule, -, rfl⟩ := List.mem_map.1 htrial
      rfl
  | thngPropertiesChanged event =>
      obtain ⟨rule, -, rfl⟩ := List.mem_map.1 htrial
      rfl

end EventRules
