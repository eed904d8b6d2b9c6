import EventRules.Proofs.Outcome
import EventRules.Rule.Report

/-!
# Report — the errors and the warnings of a table, rule by rule

The report of a list is made in one pass, which carries the names that it has met.  What it says of a
rule depends on the rule, its index and the names of the rules before it.  The pass clears the mark of
a valid table with its first error, so that the mark says whether there are any.

* `Report.errorAt`, `Report.warningAt` — what the pass says of one rule;
* `Report.check_eq` — what it adds to a report;
* `Table.report_eq` — the whole report; `Report.errorsOf`, `Report.warningsOf` — its parts.
-/

namespace EventRules
namespace Report

variable {κ : Type} [Condition κ]

/-! ## One rule -/

/-- The error of a rule with its index, if the rule is not valid. -/
def errorAt (list : String) : Rule κ × Nat → Option ReportedError
  | (rule, i) => (faultOf rule.validate).map fun fault => ⟨path list i, rule.name, fault.message⟩

/-- The warning of a rule with its index among the rules of a list: the rule has no name, or a rule
before it has the same one. -/
def warningAt {κ : Type} (list : String) (rules : List (Rule κ)) :
    Rule κ × Nat → Option ReportedWarning
  | (rule, i) =>
      if rule.name = "" then
        some ⟨path list i, "rule has no name; logs will not identify it"⟩
      else if ∃ earlier ∈ rules.take i, earlier.name = rule.name then
        some ⟨path list i, "duplicate rule name '" ++ rule.name ++ "'"⟩
      else none

/-- The names that the pass has met are those of the rules before. -/
theorem warningAt_append {κ : Type} (list : String) (front : List (Rule κ)) (rule : Rule κ)
    (rest : List (Rule κ)) :
    warningAt list (front ++ rule :: rest) (rule, front.length) =
      (nameWarning? (front.reverse.map Rule.name) rule.name).map
        (ReportedWarning.mk (path list front.length)) := by
  have hmet : (front.reverse.map Rule.name).contains rule.name = true ↔
      ∃ earlier ∈ (front ++ rule :: rest).take front.length, earlier.name = rule.name := by
    rw [List.take_left, List.contains_iff_mem, List.mem_map]
    simp only [List.mem_reverse]
  unfold nameWarning?
  dsimp only [warningAt]
  split
  · rfl
  · by_cases h : ∃ earlier ∈ (front ++ rule :: rest).take front.length, earlier.name = rule.name
    · rw [if_pos h, if_pos (hmet.2 h)]
      rfl
    · rw [if_neg h, if_neg (mt hmet.1 h)]
      rfl

/-! ## One list -/

/-- The report with more errors and warnings; an error makes it a report that is not valid. -/
def extend (report : Report) (errors : List ReportedError) (warnings : List ReportedWarning) :
    Report :=
  ⟨report.isValid && errors.isEmpty, report.errors ++ errors, report.warnings ++ warnings⟩

theorem extend_nil (report : Report) : report.extend [] [] = report := by
  simp [extend]

theorem extend_extend (report : Report) (errors more : List ReportedError)
    (warnings others : List ReportedWarning) :
    (report.extend errors warnings).extend more others =
      report.extend (errors ++ more) (warnings ++ others) := by
  cases errors <;> simp [extend]

/-- The first rule of a list adds its own error and its own warning. -/
theorem checkFrom_cons (list : String) (earlier : List String) (index : Nat) (report : Report)
    (rule : Rule κ) (rest : List (Rule κ)) :
    checkFrom list earlier index report (rule :: rest) =
      checkFrom list (rule.name :: earlier) (index + 1)
        (report.extend (errorAt list (rule, index)).toList
          ((nameWarning? earlier rule.name).map (ReportedWarning.mk (path list index))).toList)
        rest := by
  rw [checkFrom, errorAt]
  rcases rule.validate with fault | parts <;>
    rcases nameWarning? earlier rule.name with _ | message <;>
    simp [faultOf, extend, addError, addWarning]

/-- From some rule on, the pass adds what there is to say about the rules that are left. -/
theorem checkFrom_append (list : String) (front rest : List (Rule κ)) (report : Report) :
    checkFrom list (front.reverse.map Rule.name) front.length report rest =
      report.extend ((rest.zipIdx front.length).filterMap (errorAt list))
        ((rest.zipIdx front.length).filterMap (warningAt list (front ++ rest))) := by
  -- the rules before are a parameter: each rule that is passed goes over to them
  induction rest generalizing front report with
  | nil =>
      exact report.extend_nil.symm
  | cons rule rest ih =>
      have hnext := ih (front ++ [rule])
      simp only [List.reverse_append, List.reverse_singleton, List.singleton_append, List.map_cons,
        List.length_append, List.length_singleton, List.append_assoc] at hnext
      rw [checkFrom_cons, hnext, extend_extend, ← warningAt_append list front rule rest]
      simp only [List.zipIdx_cons, List.filterMap_cons]
      cases errorAt list (rule, front.length) <;>
        cases warningAt list (front ++ rule :: rest) (rule, front.length) <;> rfl

/-- The errors of a list. -/
def errorsOf (list : String) (rules : List (Rule κ)) : List ReportedError :=
  rules.zipIdx.filterMap (errorAt list)

/-- The warnings of a list. -/
def warningsOf {κ : Type} (list : String) (rules : List (Rule κ)) : List ReportedWarning :=
  rules.zipIdx.filterMap (warningAt list rules)

theorem check_eq (list : String) (rules : List (Rule κ)) (report : Report) :
    check list rules report = report.extend (errorsOf list rules) (warningsOf list rules) :=
  checkFrom_append list [] rules report

/-- There is no error where all rules are accepted. -/
theorem errorsOf_eq_nil_iff {list : String} {rules : List (Rule κ)} :
    errorsOf list rules = [] ↔ ∀ rule ∈ rules, ∃ parts, rule.validate = .ok parts := by
  have haccepted : ∀ (rule : Rule κ) (i : Nat), errorAt list (rule, i) = none ↔
      ∃ parts, rule.validate = .ok parts := by
    intro rule i
    rw [errorAt]
    cases rule.validate <;> simp [faultOf]
  rw [errorsOf, List.filterMap_eq_nil_iff]
  constructor
  · intro h rule hrule
    obtain ⟨i, hi⟩ := List.mem_iff_getElem?.1 hrule
    exact (haccepted rule i).1 (h (rule, i) (List.mem_zipIdx_iff_getElem?.2 hi))
  · rintro h ⟨rule, i⟩ hmem
    exact (haccepted rule i).2 (h rule (List.mem_of_getElem? (List.mem_zipIdx_iff_getElem?.1 hmem)))

end Report

/-! ## A table -/

namespace Table

/-- The warning of a table without rules. -/
def warnings (table : Table) : List ReportedWarning :=
  if table.isEmpty then [emptyWarning] else []

theorem report_eq (table : Table) :
    table.report =
      Report.blank.extend
        (Report.errorsOf actionList table.actionRules ++
          Report.errorsOf propertyList table.propertyRules)
        (Report.warningsOf actionList table.actionRules ++
          Report.warningsOf propertyList table.propertyRules ++ table.warnings) := by
  rw [report, Report.check_eq, Report.check_eq, Report.extend_extend, warnings]
  cases table.isEmpty <;> simp [Report.extend, Report.addWarning]

theorem report_errors (table : Table) :
    table.report.errors = Report.errorsOf actionList table.actionRules ++
      Report.errorsOf propertyList table.propertyRules := by
  rw [report_eq, Report.extend, Report.blank, List.nil_append]

/-- The mark of a valid table stands as long as there is no error. -/
theorem report_isValid_iff (table : Table) :
    table.report.isValid = true ↔ table.report.errors = [] := by
  rw [report_errors, report_eq]
  simp [Report.extend, Report.blank]

end Table
end EventRules
