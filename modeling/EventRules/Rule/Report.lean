import EventRules.Rule.Fault
import EventRules.Rule.Table

/-!
# Report — what is wrong with a table

A rule is valid when it has a condition and an output whose texts are right in their notation.  A
report is made in one pass over the two lists of a table; it counts as valid until the first error.

* `Rule.validate` — the parts of a valid rule;
* `Report.checkFrom` — the pass over one list, which carries the names that it has met;
* `Table.report` — one error for each rule that is not valid, and warnings about names.
-/

namespace EventRules

namespace Rule

variable {κ : Type} [Condition κ]

/-- The condition and the output of a rule that has both. -/
def validate (rule : Rule κ) : Except RuleFault (κ × OutputTemplate) :=
  match rule.condition, rule.output with
  | none, _ => .error (.invalid rule.toJson .noCondition)
  | some _, none => .error (.invalid rule.toJson .noOutput)
  | some condition, some output =>
      match output.check with
      | .ok () => .ok (condition, output)
      | .error fault => .error (.invalid rule.toJson (.uncompiled fault))

end Rule

/-! ## Reports -/

/-- A rule that fails for every event. -/
structure ReportedError where
  path : String
  rule : String
  message : String
  deriving DecidableEq

structure ReportedWarning where
  path : String
  message : String
  deriving DecidableEq

structure Report where
  /-- Cleared by every error. -/
  isValid : Bool
  errors : List ReportedError
  warnings : List ReportedWarning
  deriving DecidableEq

namespace Report

/-- The report before anything has been looked at. -/
def blank : Report := ⟨true, [], []⟩

def addError (report : Report) (error : ReportedError) : Report :=
  { report with isValid := false, errors := report.errors ++ [error] }

def addWarning (report : Report) (warning : ReportedWarning) : Report :=
  { report with warnings := report.warnings ++ [warning] }

def errorJson (error : ReportedError) : Json :=
  .object [
    ("path", .string error.path),
    ("rule", .string error.rule),
    ("message", .string error.message)]

def warningJson (warning : ReportedWarning) : Json :=
  .object [("path", .string warning.path), ("message", .string warning.message)]

def toJson (report : Report) : Json :=
  .object [
    ("valid", .bool report.isValid),
    ("errors", .array (report.errors.map errorJson)),
    ("warnings", .array (report.warnings.map warningJson))]

/-! ## Rules of one list -/

variable {κ : Type} [Condition κ]

/-- Where a rule stands in its list. -/
def path (list : String) (index : Nat) : String := list ++ "[" ++ toString index ++ "]"

/-- What is odd about the name of a rule, given the names before it. -/
def nameWarning? (earlier : List String) (name : String) : Option String :=
  if name = "" then some "rule has no name; logs will not identify it"
  else if earlier.contains name then some ("duplicate rule name '" ++ name ++ "'")
  else none

/-- Looks at the rules of a list from an index on, given the names before it. -/
def checkFrom (list : String) (earlier : List String) (index : Nat) (report : Report) :
    List (Rule κ) → Report
  | [] => report
  | rule :: rest =>
      let report :=
        match rule.validate with
        | .ok _ => report
        | .error fault => report.addError ⟨path list index, rule.name, fault.message⟩
      let report :=
        match nameWarning? earlier rule.name with
        | none => report
        | some message => report.addWarning ⟨path list index, message⟩
      checkFrom list (rule.name :: earlier) (index + 1) report rest

def check (list : String) (rules : List (Rule κ)) (report : Report) : Report :=
  checkFrom list [] 0 report rules

end Report

/-! ## Tables -/

namespace Table

def actionList : String := "action_rules"

def propertyList : String := "property_rules"

def emptyWarning : ReportedWarning := ⟨"", "rule table has no rules; no event will produce output"⟩

def report (table : Table) : Report :=
  let report := Report.blank
    |> Report.check actionList table.actionRules
    |> Report.check propertyList table.propertyRules
  if table.isEmpty then report.addWarning emptyWarning else report

end Table

end EventRules
