import EventRules.Text.Quoted

/-!
# Log — what the program tells about its work

An entry has a level, the part of the program that it comes from, a message and fields.  The value of
a field is a text that is shown as it is, or quoted.

* `LogEntry.line` — an entry in one line.
-/

namespace EventRules

inductive LogLevel where
  | error
  | warn
  | info
  | debug
  deriving DecidableEq

namespace LogLevel

def name : LogLevel → String
  | .error => "ERROR"
  | .warn => "WARN"
  | .info => "INFO"
  | .debug => "DEBUG"

/-- How much is told when a level is the last one that is shown. -/
def verbosity : LogLevel → Nat
  | .error => 1
  | .warn => 2
  | .info => 3
  | .debug => 4

end LogLevel

/-- The part of the program that an entry comes from. -/
inductive LogSource where
  | settings
  | worker
  | table
  | evaluation
  | reaction
  | dryRun
  | dispatch
  deriving DecidableEq

def LogSource.name : LogSource → String
  | .settings => "reactor_core::config"
  | .worker => "reactor_worker"
  | .table => "reactor_rules::table"
  | .evaluation => "reactor_rules::evaluator"
  | .reaction => "reactor_rules::reactor"
  | .dryRun => "reactor_remote::dry_run"
  | .dispatch => "reactor_remote::dispatcher"

structure LogField where
  name : String
  value : String
  isQuoted : Bool
  deriving DecidableEq

namespace LogField

/-- A field that is shown as it is. -/
def plain (name value : String) : LogField := ⟨name, value, false⟩

def quoted (name value : String) : LogField := ⟨name, value, true⟩

def count (name : String) (n : Nat) : LogField := plain name (toString n)

def assignment (field : LogField) : String :=
  field.name ++ "=" ++ if field.isQuoted then Text.quoted field.value else field.value

end LogField

structure LogEntry where
  level : LogLevel
  source : LogSource
  message : String
  fields : List LogField
  deriving DecidableEq

namespace LogEntry

/-- The level to the right in five places, the source, the message and the fields. -/
def line (entry : LogEntry) : String :=
  let level := entry.level.name
  String.ofList (List.replicate (5 - level.length) ' ') ++ level ++ " " ++
    entry.source.name ++ ": " ++
    " ".intercalate (entry.message :: entry.fields.map LogField.assignment)

end LogEntry

end EventRules
