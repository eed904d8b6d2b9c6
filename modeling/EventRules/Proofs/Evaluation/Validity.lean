import EventRules.Proofs.Evaluation.Trial
import EventRules.Proofs.Template.Texts

/-!
# Validity — what the validation of a rule is worth when an event comes

A rule is validated without an event.  An output template that validation rejects has no value in any
context, and one that it accepts is never told to be wrong in its notation later on.

* `Trial.rejection?` — why validation rejects the rule of a trial;
* `Trial.invalid_of_accepted` — where a rule that is accepted can turn out to be invalid;
* `OutputTemplate.check_agrees_with_render` — checking and rendering agree.
-/

namespace EventRules

/-! ## Rejected rules -/

namespace Rule

variable {κ : Type} [Condition κ]

/-- A rule is rejected for its template if the template is not right in its notation. -/
theorem check_of_validate {rule : Rule κ} {written : Json} {fault : OutputFault}
    (h : rule.validate = .error (.invalid written (.uncompiled fault))) :
    ∃ output, rule.output = some output ∧ output.check = .error fault := by
  rcases rule with ⟨name, condition?, output?⟩
  cases condition? with
  | none =>
      cases h
  | some condition =>
      cases output? with
      | none =>
          cases h
      | some output =>
          cases hcheck : output.check with
          | ok done =>
              simp [validate, hcheck] at h
          | error own =>
              have : own = fault := by
                simp only [validate, hcheck] at h
                cases h
                rfl
              exact ⟨output, rfl, by rw [hcheck, this]⟩

end Rule

namespace Trial

/-- Why validation rejects the rule, if it does. -/
def rejection? : Trial → Option RuleFault
  | .action rule _ => faultOf rule.validate
  | .property rule _ => faultOf rule.validate

/-- The output of the rule, if it has one. -/
def output? : Trial → Option OutputTemplate
  | .action rule _ => rule.output
  | .property rule _ => rule.output

theorem rejection?_eq_invalid {trial : Trial} {fault : RuleFault}
    (h : trial.rejection? = some fault) : ∃ defect, fault = .invalid trial.written defect := by
  cases trial with
  | action rule subject =>
      exact Rule.validate_error (faultOf_eq_some_iff.1 h)
  | property rule event =>
      exact Rule.validate_error (faultOf_eq_some_iff.1 h)

/-- A rule that is rejected fails for every event, in the same way. -/
theorem failsEarly_of_rejection {trial : Trial} {fault : RuleFault}
    (h : trial.rejection? = some fault) : trial.FailsEarly fault := by
  obtain ⟨defect, rfl⟩ := rejection?_eq_invalid h
  cases trial with
  | action rule subject =>
      exact .invalidAction (faultOf_eq_some_iff.1 h)
  | property rule event =>
      exact .invalidProperty (faultOf_eq_some_iff.1 h)

theorem check_of_rejection {trial : Trial} {written : Json} {fault : OutputFault}
    (h : trial.rejection? = some (.invalid written (.uncompiled fault))) :
    ∃ output, trial.output? = some output ∧ output.check = .error fault := by
  cases trial with
  | action rule subject =>
      exact Rule.check_of_validate (faultOf_eq_some_iff.1 h)
  | property rule event =>
      exact Rule.check_of_validate (faultOf_eq_some_iff.1 h)

/-! ## Accepted rules -/

/-- What is selected is the output of the rule, and right in its notation. -/
theorem Selects.output {trial : Trial} {output : OutputTemplate} {target : String} {context : Json}
    (selects : trial.Selects output target context) :
    trial.output? = some output ∧ output.check = .ok () := by
  cases selects with
  | action whole _ _ _ =>
      exact ⟨whole.hasOutput, whole.compiles⟩
  | property whole _ =>
      exact ⟨whole.hasOutput, whole.compiles⟩

/-- A rule that is accepted is invalid only where one of its texts is evaluated for an event. -/
theorem invalid_of_accepted {trial : Trial} (accepted : trial.rejection? = none) {written : Json}
    {defect : Defect} (h : trial.prepare = .error (.invalid written defect)) :
    ∃ output target context fault, trial.Selects output target context ∧
      output.renderTree context = .error fault ∧ written = trial.written ∧
      defect = .unrendered fault ∧
      ∃ source ∈ output.tree.value.texts,
        OutputTemplate.FailsInEvaluation (.ofJson context) source fault := by
  have fails := prepare_eq_error_iff.1 h
  cases fails with
  | invalidAction hinvalid =>
      simp [rejection?, hinvalid, faultOf] at accepted
  | invalidProperty hinvalid =>
      simp [rejection?, hinvalid, faultOf] at accepted
  | @unrendered _ output target context fault selects hfault =>
      exact ⟨output, target, context, fault, selects, hfault, rfl, rfl,
        OutputTemplate.failsInEvaluation_of_check selects.output.2 hfault⟩

end Trial

/-! ## Checking and rendering -/

/-- Rendering fails in its texts, or else in the classification of their outcome. -/
theorem OutputTemplate.render_eq_error_iff {template : OutputTemplate} {context : Json}
    {fault : OutputFault} :
    template.render context = .error fault ↔
      template.renderTree context = .error fault ∨
      ∃ value problem, template.renderTree context = .ok value ∧
        Payload.classify value = .error problem ∧ fault = .unclassifiable problem := by
  rw [render_eq]
  cases template.renderTree context with
  | error own =>
      simp
  | ok value =>
      cases hclass : Payload.classify value with
      | error problem =>
          simp [hclass, eq_comm]
      | ok payload =>
          simp [hclass]

/-- Checking a template and rendering it take the same view of each of its texts. -/
theorem OutputTemplate.check_agrees_with_render (template : OutputTemplate) :
    -- what the check rejects fails in every context while it is rendered, not when it is classified
    (∀ fault, template.check = .error fault → ∀ context,
      ∃ source message, template.render context = .error (.unrendered source message)) ∧
    -- of what it accepts all texts compile; only their evaluation can fail, or the classification
    (template.check = .ok () →
      (∀ source ∈ template.tree.value.texts,
        ∃ compiled, (Template.Leaf.ofText source).compile = .ok compiled) ∧
      ∀ context fault, template.render context = .error fault →
        (∃ source ∈ template.tree.value.texts, FailsInEvaluation (.ofJson context) source fault) ∨
        ∃ value problem, template.renderTree context = .ok value ∧
          Payload.classify value = .error problem ∧ fault = .unclassifiable problem) ∧
    -- a rule that is rejected for the template could not have had output in any context
    (∀ trial : Trial, trial.output? = some template → ∀ written fault,
      trial.rejection? = some (.invalid written (.uncompiled fault)) →
      ∀ context payload, template.render context ≠ .ok payload) ∧
    -- a rule that is accepted with it never fails because a text does not compile
    (∀ trial : Trial, trial.output? = some template → trial.rejection? = none →
      ∀ written defect, trial.prepare = .error (.invalid written defect) →
      ∃ target context fault, trial.Selects template target context ∧
        defect = .unrendered fault ∧
        ∃ source ∈ template.tree.value.texts, FailsInEvaluation (.ofJson context) source fault) := by
  have hrejected : ∀ fault, template.check = .error fault → ∀ context,
      ∃ source message, template.render context = .error (.unrendered source message) := by
    intro fault hcheck context
    obtain ⟨source, message, htree⟩ := renderTree_of_check hcheck context
    exact ⟨source, message, render_eq_error_iff.2 (Or.inl htree)⟩
  refine ⟨hrejected, ?_, ?_, ?_⟩
  · intro hcheck
    refine ⟨fun source hsource => ?_, fun context fault hrender => ?_⟩
    · exact checkText_eq_ok_iff.1 (check_eq_ok_iff.1 hcheck source hsource)
    · rcases render_eq_error_iff.1 hrender with htree | hclass
      · exact Or.inl (failsInEvaluation_of_check hcheck htree)
      · exact Or.inr hclass
  · intro trial houtput written fault hrejection context payload hrender
    obtain ⟨output, hown, hcheck⟩ := Trial.check_of_rejection hrejection
    have : output = template := Option.some.inj (hown.symm.trans houtput)
    obtain ⟨source, message, hfails⟩ := hrejected fault (this ▸ hcheck) context
    rw [hrender] at hfails
    cases hfails
  · intro trial houtput accepted written defect hprepare
    obtain ⟨output, target, context, fault, selects, -, -, hdefect, hsource⟩ :=
      Trial.invalid_of_accepted accepted hprepare
    have : output = template := Option.some.inj (selects.output.1.symm.trans houtput)
    subst this
    exact ⟨target, context, fault, selects, hdefect, hsource⟩

namespace Invocability

/-- The first text has no value where `a` is undefined, and the second is no expression. -/
def halfWritten : OutputTemplate :=
  .ofJson (.object
    [("key", .string "\x7b\x7b a.b \x7d\x7d"), ("value", .string "\x7b\x7b 1 + \x7d\x7d")])

end Invocability

open Invocability in
/-- The check is stopped by the second text, and rendering by the first. -/
theorem Invocability.halfWritten_fails :
    (∃ message, halfWritten.check = .error (.uncompiled "\x7b\x7b 1 + \x7d\x7d" message)) ∧
    (∃ source message, halfWritten.render (.object []) = .error (.unrendered source message)) ∧
    faultOf (halfWritten.render (.object [])) =
      some (.unrendered "\x7b\x7b a.b \x7d\x7d" "undefined value (in <expression>:1)") := by
  have hcheck : halfWritten.check = .error (.uncompiled "\x7b\x7b 1 + \x7d\x7d"
      "syntax error: unexpected end of input, expected expression (in <expression>:1)") :=
    faultOf_eq_some_iff.1 (by decide +kernel)
  obtain ⟨hrejected, -⟩ := OutputTemplate.check_agrees_with_render halfWritten
  exact ⟨⟨_, hcheck⟩, hrejected _ hcheck (.object []), by decide +kernel⟩

end EventRules
