import EventRules.CommandLine.Parse
import EventRules.Settings.Basic

/-!
# Options — the command line of the worker

The worker works off events, checks its table, or sends one payload.

* `Worker.program` — the command line;
* `Worker.Options` — what a command line asks for, `Options.ofInvocation` — how it is taken.
-/

namespace EventRules
namespace Worker

open CommandLine

/-! ## The program -/

def rulesParameter : Parameter :=
  (Parameter.ofPath "rules" "RULES" "Rule table to use instead of the embedded one").fromEnvironment
    "REACTOR_RULES"

def dryRunParameter : Parameter :=
  (Parameter.ofFlag "dry-run" "Log remote calls instead of sending them").fromEnvironment
    "REACTOR_DRY_RUN"

def apiUrlParameter : Parameter :=
  .ofValue "api-url" "API_URL" "Entity API base URL (overrides API_URL)"

def apiKeyParameter : Parameter :=
  .ofValue "api-key" "API_KEY" "Entity API key (overrides API_KEY)"

def eventsParameter : Parameter := .ofPath "events" "EVENTS" ""

def thngParameter : Parameter := (Parameter.ofValue "thng" "THNG" "").required

def payloadParameter : Parameter :=
  (Parameter.ofValue "payload" "PAYLOAD"
    "Payload JSON, e.g. '\x7b\"key\":\"active\",\"value\":true\x7d'").required

def runCommand : Command :=
  ⟨"run", "Process event envelopes from a file, or stdin when omitted", [eventsParameter]⟩

def validateCommand : Command :=
  ⟨"validate", "Validate the rule table and print a JSON report", []⟩

def dispatchCommand : Command :=
  ⟨"dispatch", "Classify one raw payload and dispatch it to a thng",
    [thngParameter, payloadParameter]⟩

def program : Program where
  name := "reactor-worker"
  version := "0.1.0"
  about := "Rule engine worker — evaluates action and property-change events"
  parameters := [rulesParameter, dryRunParameter, apiUrlParameter, apiKeyParameter]
  commands := [runCommand, validateCommand, dispatchCommand]

/-! ## Options -/

inductive Task where
  /-- Works off the events of a file, or of the input if none is named. -/
  | run (events : Option String)
  | validate
  | dispatch (target payload : String)
  deriving DecidableEq

structure Options where
  rules : Option String
  dryRun : Bool
  apiUrl : Option String
  apiKey : Option String
  task : Task
  deriving DecidableEq

namespace Options

def taskOf (command : String) (values : List (String × String)) : Task :=
  if command = validateCommand.name then .validate
  else if command = dispatchCommand.name then
    .dispatch ((values.lookup thngParameter.name).getD "")
      ((values.lookup payloadParameter.name).getD "")
  else .run (values.lookup eventsParameter.name)

def ofInvocation (invocation : Invocation) : Options where
  rules := invocation.values.lookup rulesParameter.name
  dryRun := invocation.values.lookup dryRunParameter.name == some "true"
  apiUrl := invocation.values.lookup apiUrlParameter.name
  apiKey := invocation.values.lookup apiKeyParameter.name
  task := taskOf invocation.command invocation.commandValues

/-- The files that the options name. -/
def files (options : Options) : List String :=
  options.rules.toList ++
    match options.task with
    | .run (some events) => [events]
    | _ => []

/-- Whether the events come from the input. -/
def readsInput (options : Options) : Bool := options.task == .run none

/-- The settings of the remote service: what the command line gives comes first. -/
def apiSettings (options : Options) (settings : ApiSettings) : ApiSettings :=
  { settings with
    url := options.apiUrl.getD settings.url
    key := options.apiKey.orElse fun _ => settings.key }

end Options

end Worker
end EventRules
