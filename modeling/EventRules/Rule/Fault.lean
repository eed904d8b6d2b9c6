import EventRules.Remote.Basic
import EventRules.Rule.Basic

/-!
# Fault — why a rule fails for an event

* `Defect` — what is wrong with the rule itself;
* `RuleFault` — all reasons for which a rule fails, with a short name for logs and a message.
-/

namespace EventRules

/-- What is wrong with a rule; only the last kind depends on the event. -/
inductive Defect where
  | noCondition
  | noOutput
  | uncompiled (fault : OutputFault)
  | unrendered (fault : OutputFault)
  deriving DecidableEq

def Defect.message : Defect → String
  | .noCondition => "missing `when`"
  | .noOutput => "missing `create`"
  | .uncompiled fault => "`create` is not invocable: " ++ fault.message
  | .unrendered fault => fault.message

inductive RuleFault where
  /-- The rule is no good; it is told in its written form. -/
  | invalid (rule : Json) (defect : Defect)
  /-- The rule fired, but there is no entity to receive its output. -/
  | missingTarget (rule : String)
  | unclassifiable (problem : Unclassifiable)
  | remote (fault : RemoteFault)
  /-- The call broke down; there may be a text that says why. -/
  | panicked (text : Option String)
  deriving DecidableEq

/-- The text of a breakdown. -/
def panicText (text : Option String) : String := text.getD "unknown panic"

namespace RuleFault

def kind : RuleFault → String
  | .invalid _ _ => "invalid_rule"
  | .missingTarget _ => "missing_target"
  | .unclassifiable _ => "payload_classification"
  | .remote _ => "remote_operation"
  | .panicked _ => "panicked"

def message : RuleFault → String
  | .invalid rule defect => "Rule is invalid (" ++ defect.message ++ "): " ++ rule.compact
  | .missingTarget rule => "Thng not specified, output of rule '" ++ rule ++ "' not created"
  | .unclassifiable problem => "Payload classification failed: " ++ problem.message
  | .remote fault => "Remote operation failed: " ++ fault.message
  | .panicked text => "Rule branch panicked: " ++ panicText text

/-- A value that could not be sent, as the failure of a rule. -/
def ofDispatch : DispatchFault → RuleFault
  | .unclassifiable problem => .unclassifiable problem
  | .remote fault => .remote fault

end RuleFault

end EventRules
