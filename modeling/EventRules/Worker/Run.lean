import EventRules.Remote.DryRun
import EventRules.Remote.Http
import EventRules.Rule.Report
import EventRules.Settings.Assignments
import EventRules.Worker.Events
import EventRules.Worker.Options
import EventRules.Worker.Session

/-!
# Run — the worker from its start to its end

The worker reads its command line and its settings, loads its table and does what it is asked to do.
All that it knows comes from its surroundings: words, variables, files, an input and a network.

* `Worker.Surroundings` — what the worker can see;
* `Worker.perform` — what the worker does for its options;
* `Worker.run` — the whole of a run.
-/

namespace EventRules

namespace Worker

/-- What the worker can see around itself. -/
structure Surroundings (σ : Type) where
  arguments : List String
  environment : Environment
  /-- The text of a file, or the problem with it. -/
  file : String → Except String String
  input : String
  network : Network σ

variable {σ : Type}

/-! ## Settings -/

/-- The file that gives variables which the environment lacks. -/
def assignmentsFile : String := ".env"

/-- The environment, with what the file of variables gives. -/
def environmentOf (around : Surroundings σ) : Environment :=
  match around.file assignmentsFile with
  | .ok text => Environment.supplyAll around.environment (Assignments.ofText text)
  | .error _ => around.environment

/-- The variable that says which log entries are shown. -/
def logVariable : String := "RUST_LOG"

def filterOf (around : Surroundings σ) : LogFilter := .ofText (around.environment.get? logVariable)

/-! ## Tables -/

def loadedEntry (path : String) (table : Table) : LogEntry where
  level := .info
  source := .worker
  message := "loaded rule table"
  fields := [.plain "path" path, .count "rules" table.size]

def installedEntry (table : Table) : LogEntry where
  level := .info
  source := .table
  message := "rule table installed"
  fields := [
    .count "action_rules" table.actionRules.length,
    .count "property_rules" table.propertyRules.length]

def readTable (around : Surroundings σ) (path : String) : Except TableFault Table :=
  match around.file path with
  | .ok document => Table.ofText document
  | .error problem => .error (.unreadable problem)

/-- The table of a path, or the embedded one, and what is logged about it. -/
def loadTable (around : Surroundings σ) : Option String → Except Problem (Table × List LogEntry)
  | none => .ok (.embedded, [])
  | some path =>
      match readTable around path with
      | .ok table => .ok (table, [loadedEntry path table, installedEntry table])
      | .error fault =>
          .error ⟨"failed to load rules from " ++ path, fault.message :: fault.causes⟩

/-! ## The remote service -/

def noKeyEntry : LogEntry where
  level := .warn
  source := .worker
  message := "no API key configured; the entity API will likely reject requests"
  fields := []

/-- The service that the options ask for, and what is logged as it is set up. -/
def chooseApi (around : Surroundings σ) (environment : Environment) (options : Options)
    (settings : ApiSettings) : List LogEntry × Except RemoteFault (Api σ) :=
  if options.dryRun then ([], .ok DryRun.api)
  else
    let settings := options.apiSettings settings
    (if settings.isConfigured then [] else [noKeyEntry],
      (HttpClient.ofSettings environment settings).map fun client => client.api around.network)

/-- Goes on with a service, if it can be set up. -/
def withApi (made : List LogEntry × Except RemoteFault (Api σ)) (state : σ)
    (next : Api σ → Session σ) : Session σ :=
  Session.afterEntries made.1 <|
    match made.2 with
    | .ok api => next api
    | .error fault => .failed ⟨fault.message, fault.causes⟩ state

/-! ## Tasks -/

/-- A value on lines of its own. -/
def printed (value : Json) : List Occurrence := [.printed (value.pretty ++ "\n")]

def validate (table : Table) (state : σ) : Session σ :=
  let report := table.report
  Session.after (printed report.toJson) <|
    if report.isValid then .succeeded state
    else .failed ⟨toString report.errors.length ++ " invalid rule(s)", []⟩ state

/-- What has become of a payload that was sent. -/
def conclude (made : Dispatched σ) : Session σ :=
  Session.after made.occurrences <|
    match made.outcome with
    | .answered value => (Session.succeeded made.state).after (printed value)
    | .failed fault => .failed ⟨fault.message, fault.causes⟩ made.state
    | .panicked text => ⟨[], some 101, panicText text ++ "\n", made.state⟩
    | .hung => .endless made.state

/-- Waits for a call for as long as it takes. -/
def send (api : Api σ) (target : String) (payload : Json) (state : σ) : Dispatched σ :=
  match Payload.classify payload with
  | .error problem => ⟨.failed (.unclassifiable problem), [], state⟩
  | .ok classified =>
      let call : Call := ⟨target, classified⟩
      api.dispatch ((api.call call state).1.suspensions + 1) call state

def dispatch (chosen : List LogEntry × Except RemoteFault (Api σ)) (target payload : String)
    (state : σ) : Session σ :=
  match Json.parse payload with
  | .error fault => .failed ⟨"payload is not valid JSON", [fault.message]⟩ state
  | .ok value => withApi chosen state fun api => conclude (send api target value state)

def invalidRuleEntry (error : ReportedError) : LogEntry where
  level := .warn
  source := .worker
  message := "invalid rule will fail every event"
  fields := [.plain "path" error.path, .plain "rule" error.rule, .plain "error" error.message]

def startingEntry (api : String) (table : Table) : LogEntry where
  level := .info
  source := .worker
  message := "reactor-worker starting"
  fields := [.quoted "api" api, .count "rules" table.size]

def finishedEntry (tally : Tally) : LogEntry where
  level := .info
  source := .worker
  message := "reactor-worker exited cleanly"
  fields := [
    .count "succeeded" tally.succeeded,
    .count "failed" tally.failed,
    .count "skipped" tally.skipped]

/-- The text of the events. -/
def eventsText (around : Surroundings σ) : Option String → Except Problem String
  | none => .ok around.input
  | some path =>
      match around.file path with
      | .ok text => .ok text
      | .error problem => .error ⟨"failed to open " ++ path, [problem]⟩

/-- Works off all events of a text. -/
def workOffText (table : Table) (api : Api σ) (text : String) (state : σ) : Session σ :=
  let progress := workOffAll table api 1 (textLines text) state
  Session.after progress.occurrences <|
    if progress.isStuck then .endless progress.state
    else (Session.succeeded progress.state).afterEntries [finishedEntry progress.tally]

def runEvents (around : Surroundings σ) (table : Table)
    (chosen : List LogEntry × Except RemoteFault (Api σ)) (events : Option String) (state : σ) :
    Session σ :=
  Session.afterEntries (table.report.errors.map invalidRuleEntry) <|
    withApi chosen state fun api =>
      Session.afterEntries [startingEntry api.name table] <|
        match eventsText around events with
        | .error problem => .failed problem state
        | .ok text => workOffText table api text state

/-! ## Runs -/

/-- What the worker does for its options. -/
def perform (around : Surroundings σ) (environment : Environment) (options : Options) (state : σ) :
    Session σ :=
  let settings := Settings.ofEnvironment environment
  Session.afterEntries settings.summary <|
    match loadTable around options.rules with
    | .error problem => .failed problem state
    | .ok (table, entries) =>
        let chosen := chooseApi around environment options settings.api
        Session.afterEntries entries <|
          match options.task with
          | .validate => validate table state
          | .dispatch target payload => dispatch chosen target payload state
          | .run events => runEvents around table chosen events state

/-- A run whose command line does not ask for work. -/
def stopped (stop : CommandLine.Stop) (state : σ) : Session σ :=
  match stop with
  | .help text => ⟨[.printed text], some 0, "", state⟩
  | .version text => ⟨[.printed text], some 0, "", state⟩
  | .nothing text => ⟨[], some 2, text, state⟩
  | .error error => ⟨[], some 2, error.message, state⟩

def run (around : Surroundings σ) (state : σ) : Session σ :=
  let environment := environmentOf around
  match program.parse environment around.arguments with
  | .ok invocation => perform around environment (.ofInvocation invocation) state
  | .error stop => stopped stop state

end Worker
end EventRules
