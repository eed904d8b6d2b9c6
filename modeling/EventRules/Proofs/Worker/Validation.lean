import EventRules.Proofs.Rule.Report
import EventRules.Worker.Run

/-!
# Validation — the report of a table, and how a run that asks for it ends

* `Table.isValid_report_iff` — a table is valid if every rule is accepted;
* `Worker.validate_status`, `Worker.perform_validate_status` — the status of a run that validates;
* `Worker.report_is_exact` — the errors and the warnings of any table, and the status.
-/

namespace EventRules

/-! ## Valid tables -/

theorem Table.isValid_report_iff {table : Table} :
    table.report.isValid = true ↔
      (∀ rule ∈ table.actionRules, ∃ parts, rule.validate = .ok parts) ∧
      ∀ rule ∈ table.propertyRules, ∃ parts, rule.validate = .ok parts := by
  rw [report_isValid_iff, report_errors, List.append_eq_nil_iff, Report.errorsOf_eq_nil_iff,
    Report.errorsOf_eq_nil_iff]

/-! ## The status of a run -/

namespace Session

variable {σ : Type}

@[simp] theorem status_after (before : List Occurrence) (session : Session σ) :
    (session.after before).status = session.status := rfl

@[simp] theorem status_afterEntries (entries : List LogEntry) (session : Session σ) :
    (session.afterEntries entries).status = session.status := rfl

end Session

namespace Worker

variable {σ : Type}

theorem validate_status (table : Table) (state : σ) :
    (validate table state).status = some 0 ↔ table.report.isValid = true := by
  rw [validate, Session.status_after]
  cases table.report.isValid <;> simp [Session.succeeded, Session.failed]

/-- A run that validates ends well if its table loads and the report on it has no errors. -/
theorem perform_validate_status (around : Surroundings σ) (environment : Environment)
    {options : Options} (htask : options.task = .validate) (state : σ) :
    (perform around environment options state).status = some 0 ↔
      ∃ table entries, loadTable around options.rules = .ok (table, entries) ∧
        table.report.isValid = true := by
  rw [perform, Session.status_afterEntries, htask]
  cases hload : loadTable around options.rules with
  | error problem =>
      simp [Session.failed]
  | ok loaded =>
      obtain ⟨table, entries⟩ := loaded
      rw [Session.status_afterEntries, validate_status]
      constructor
      · exact fun hvalid => ⟨table, entries, rfl, hvalid⟩
      · rintro ⟨own, logged, hown, hvalid⟩
        cases hown
        exact hvalid

/-- What the report of a table consists of, and when a run that validates ends well. -/
theorem report_is_exact (around : Surroundings σ) (state : σ) :
    (∀ table : Table,
      let report := table.report
      -- one error for each rule that is rejected, with its place, its name and what is wrong with it
      report.errors =
        table.actionRules.zipIdx.filterMap (Report.errorAt Table.actionList) ++
          table.propertyRules.zipIdx.filterMap (Report.errorAt Table.propertyList) ∧
      (report.isValid = true ↔ report.errors = []) ∧
      (report.isValid = true ↔
        (∀ rule ∈ table.actionRules, ∃ parts, rule.validate = .ok parts) ∧
        ∀ rule ∈ table.propertyRules, ∃ parts, rule.validate = .ok parts) ∧
      -- one warning for each rule without a name of its own in its list, and one for no rules at all
      report.warnings =
        table.actionRules.zipIdx.filterMap
            (Report.warningAt Table.actionList table.actionRules) ++
          table.propertyRules.zipIdx.filterMap
            (Report.warningAt Table.propertyList table.propertyRules) ++
          if table.actionRules = [] ∧ table.propertyRules = [] then
            [⟨"", "rule table has no rules; no event will produce output"⟩]
          else []) ∧
    ∀ invocation, program.parse (environmentOf around) around.arguments = .ok invocation →
      (Options.ofInvocation invocation).task = .validate →
      ((run around state).status = some 0 ↔
        ∃ table entries,
          loadTable around (Options.ofInvocation invocation).rules = .ok (table, entries) ∧
          table.report.isValid = true) := by
  refine ⟨fun table => ⟨table.report_errors, table.report_isValid_iff,
    Table.isValid_report_iff, ?_⟩, ?_⟩
  · have hempty : table.isEmpty = true ↔ table.actionRules = [] ∧ table.propertyRules = [] := by
      rw [Table.isEmpty, Bool.and_eq_true, List.isEmpty_iff, List.isEmpty_iff]
    rw [Table.report_eq, Table.warnings]
    simp only [hempty]
    rfl
  · intro invocation hparsed htask
    rw [run]
    simp only [hparsed]
    exact perform_validate_status around _ htask state

/-- A rule that lacks a part bears the name of the rule before it. -/
def flawedDocument : String :=
  "action_rules:\n" ++
  "- \x7bname: a, when: \x7btype: b\x7d, create: \x7b\x7d\x7d\n" ++
  "- \x7bname: a, when: null, create: null\x7d\n"

def flawedTable : Table :=
  ⟨[.of "a" ⟨"b"⟩ (.ofJson (.object [])), ⟨"a", none, none⟩], []⟩

/-- A run that validates a table with flaws. -/
theorem flaws_are_reported :
    let around : Surroundings Unit := {
      arguments := ["--rules", "rules.yaml", "validate"]
      environment := []
      file := fun path =>
        if path = "rules.yaml" then .ok flawedDocument else .error TableFault.missingFile
      input := ""
      network := fun _ state => (⟨0, .answered 200 "true"⟩, state) }
    (∃ entries, loadTable around (some "rules.yaml") = .ok (flawedTable, entries)) ∧
    flawedTable.report.errors =
      [⟨"action_rules[1]", "a", "Rule is invalid (missing `when`): \x7b\"name\":\"a\"\x7d"⟩] ∧
    flawedTable.report.warnings = [⟨"action_rules[1]", "duplicate rule name 'a'"⟩] ∧
    (run around ()).status ≠ some 0 := by
  intro around
  obtain ⟨hreports, hstatus⟩ := report_is_exact around ()
  obtain ⟨herrors, -, -, hwarnings⟩ := hreports flawedTable
  have htable : Table.ofText flawedDocument = .ok flawedTable :=
    ok_of_toOption (by decide +kernel)
  have hload : loadTable around (some "rules.yaml") =
      .ok (flawedTable, [loadedEntry "rules.yaml" flawedTable, installedEntry flawedTable]) := by
    simp only [loadTable, readTable, around, if_true, htable]
  have hparsed : program.parse (environmentOf around) around.arguments =
      .ok ⟨[("rules", "rules.yaml")], "validate", []⟩ :=
    ok_of_toOption (by decide +kernel)
  refine ⟨⟨_, hload⟩, ?_, ?_, fun hzero => ?_⟩
  · rw [herrors]
    decide +kernel
  · rw [hwarnings]
    decide +kernel
  · obtain ⟨table, entries, hloaded, hvalid⟩ := (hstatus _ hparsed (by decide)).1 hzero
    rw [show (Options.ofInvocation ⟨[("rules", "rules.yaml")], "validate", []⟩).rules =
      some "rules.yaml" from rfl, hload] at hloaded
    cases hloaded
    exact absurd hvalid (by decide +kernel)

end Worker
end EventRules
