import EventRules.Proofs.CommandLine.Variables
import EventRules.Proofs.Remote.Authorization
import EventRules.Proofs.Worker.Simulation

/-!
# Secrecy — what can be told about the key from a run

Two runs of the worker whose environments differ in nothing but the key of the remote service end in
the same way, write the same, and make the same requests, apart from the key that each request
carries.  This holds as long as the key has no other way into the run: the command line gives none, no
file does, and the base of the service refers to no variables.

* `Worker.TakesKey` — the key comes from the environment alone;
* `Worker.key_stays_in_authorization` — two runs with two keys;
* `Worker.user_stands_before_key` — a base that names a user adds a value of its own.
-/

namespace EventRules
namespace Worker

variable {σ : Type}

/-! ## Where the key comes from -/

/-- The base of the service in a run, before references in it are replaced. -/
def baseText (environment : Environment) (options : Options) : String :=
  (options.apiSettings (Settings.ofEnvironment environment).api).url

/-- The key of a run comes from its environment, and nothing else in the run refers to variables: no
file gives some, the command line gives no key, and the base is meant as it is written. -/
structure TakesKey (around : Surroundings σ) : Prop where
  noFile : ∃ problem, around.file assignmentsFile = .error problem
  noKey : ∀ invocation, program.parse around.environment around.arguments = .ok invocation →
    (Options.ofInvocation invocation).apiKey = none
  noReference : ∀ invocation, program.parse around.environment around.arguments = .ok invocation →
    ¬ ['$', '\x7b'] <:+: (baseText around.environment (.ofInvocation invocation)).toList

theorem environmentOf_of_noFile {around : Surroundings σ}
    (h : ∃ problem, around.file assignmentsFile = .error problem) :
    environmentOf around = around.environment := by
  obtain ⟨problem, hfile⟩ := h
  unfold environmentOf
  rw [hfile]

/-! ## Services -/

variable {environment other : Environment} {key key' : String} {options : Options}

theorem baseText_of_twins (h : Settings.Twins environment other key key') (options : Options) :
    baseText other options = baseText environment options := by
  unfold baseText
  rw [h.ofEnvironment]
  rfl

/-- The header values by which the base of a run names a user. -/
def userValues (environment : Environment) (options : Options) : List String :=
  match HttpClient.baseOf (baseText environment options) with
  | .ok base => HttpClient.credentials base
  | .error _ => []

theorem userValues_of_baseOf {base : Url}
    (h : HttpClient.baseOf (baseText environment options) = .ok base) :
    userValues environment options = HttpClient.credentials base := by
  unfold userValues
  rw [h]

theorem userValues_of_twins (h : Settings.Twins environment other key key') (options : Options) :
    userValues other options = userValues environment options := by
  unfold userValues
  rw [baseText_of_twins h]

theorem ofSettings_of_twins (h : Settings.Twins environment other key key')
    (hkey : options.apiKey = none)
    (hurl : ¬ ['$', '\x7b'] <:+: (baseText environment options).toList) :
    HttpClient.ofSettings environment (options.apiSettings (Settings.ofEnvironment environment).api) =
      (HttpClient.baseOf (baseText environment options)).map fun base => ⟨base, some key⟩ := by
  refine HttpClient.ofSettings_of_isPlainKey hurl ?_ h.plain environment
  show (options.apiKey.orElse fun _ => (Settings.ofEnvironment environment).api.key) = some key
  rw [hkey, h.key_eq]
  rfl

/-- The services that two keys lead to correspond, and setting them up is logged alike. -/
theorem chooseApi_of_twins (h : Settings.Twins environment other key key')
    (hkey : options.apiKey = none)
    (hurl : ¬ ['$', '\x7b'] <:+: (baseText environment options).toList)
    {around others : Surroundings Transcript} {last : HttpReply}
    (hnetwork : around.network = Network.laidOut last)
    (hnetwork' : others.network = Network.laidOut last) :
    ∃ entries first second,
      chooseApi around environment options (Settings.ofEnvironment environment).api =
        (entries, first) ∧
      chooseApi others other options (Settings.ofEnvironment other).api = (entries, second) ∧
      Chosen (Transcript.askedBy (userValues environment options ++ [key'])) first second := by
  unfold chooseApi
  by_cases hdry : options.dryRun
  · rw [if_pos hdry, if_pos hdry]
    exact ⟨_, _, _, rfl, rfl, .made (Api.simulates_stateless ..)⟩
  · rw [if_neg hdry, if_neg hdry]
    have hset : ∀ {environment other : Environment} {key key' : String},
        Settings.Twins environment other key key' →
        (options.apiSettings (Settings.ofEnvironment environment).api).isConfigured = true := by
      intro environment other key key' twins
      show (options.apiKey.orElse fun _ => (Settings.ofEnvironment environment).api.key).isSome = true
      rw [hkey, twins.key_eq]
      rfl
    refine ⟨[], _, _, Prod.ext (if_pos (hset h)) rfl, Prod.ext (if_pos (hset h.symm)) rfl, ?_⟩
    have hurl' : ¬ ['$', '\x7b'] <:+: (baseText other options).toList := by
      rwa [baseText_of_twins h]
    rw [ofSettings_of_twins h hkey hurl, ofSettings_of_twins h.symm hkey hurl', baseText_of_twins h,
      hnetwork, hnetwork']
    cases hbase : HttpClient.baseOf (baseText environment options) with
    | error fault =>
        exact .fault fault
    | ok base =>
        rw [userValues_of_baseOf hbase]
        exact .made (HttpClient.simulates_laidOut (HttpClient.fitsHeader_of_isPlainKey h.plain)
          (HttpClient.fitsHeader_of_isPlainKey h.plain') base last)

/-! ## Runs -/

/-- What the worker does with one key is what it does with another one, apart from the header values
of the requests. -/
theorem perform_of_twins (h : Settings.Twins environment other key key')
    (hkey : options.apiKey = none)
    (hurl : ¬ ['$', '\x7b'] <:+: (baseText environment options).toList)
    {around others : Surroundings Transcript} {last : HttpReply}
    (hnetwork : around.network = Network.laidOut last)
    (hnetwork' : others.network = Network.laidOut last)
    (hfile : others.file = around.file) (hinput : others.input = around.input)
    (transcript : Transcript) :
    perform others other options
        (transcript.askedBy (userValues environment options ++ [key'])) =
      (perform around environment options transcript).mapState
        (Transcript.askedBy (userValues environment options ++ [key'])) := by
  obtain ⟨entries, first, second, hfirst, hsecond, hchosen⟩ :=
    chooseApi_of_twins h hkey hurl hnetwork hnetwork'
  have htable : loadTable others options.rules = loadTable around options.rules := by
    unfold loadTable readTable
    rw [hfile]
  unfold perform
  dsimp only
  rw [h.summary, htable, hfirst, hsecond, Session.mapState_afterEntries]
  refine congrArg _ ?_
  cases loadTable around options.rules with
  | error problem =>
      rfl
  | ok loaded =>
      obtain ⟨table, logged⟩ := loaded
      dsimp only
      rw [Session.mapState_afterEntries]
      refine congrArg _ ?_
      cases options.task with
      | validate =>
          exact validate_mapState _ table transcript
      | dispatch target payload =>
          exact hchosen.dispatch entries target payload transcript
      | run events =>
          exact hchosen.runEvents hfile hinput entries table events transcript

/-- A command line that asks for work asks both runs for the same; what follows is a matter of the
options. -/
theorem run_cases {around : Surroundings σ} (htakes : TakesKey around)
    (h : Settings.Twins around.environment other key key') (state : σ) :
    (∃ invocation, program.parse around.environment around.arguments = .ok invocation ∧
      run around state = perform around around.environment (.ofInvocation invocation) state ∧
      run { around with environment := other } state =
        perform { around with environment := other } other (.ofInvocation invocation) state) ∨
    ∃ stop, program.parse around.environment around.arguments = .error stop ∧
      run around state = stopped stop state ∧
      run { around with environment := other } state = stopped stop state := by
  have hparse : program.parse other around.arguments =
      program.parse around.environment around.arguments :=
    (agree_program (h.get? (by decide)) (h.get? (by decide))).parse around.arguments
  have hother : environmentOf { around with environment := other } = other :=
    environmentOf_of_noFile htakes.noFile
  unfold run
  rw [environmentOf_of_noFile htakes.noFile, hother]
  dsimp only
  rw [hparse]
  cases program.parse around.environment around.arguments with
  | error stop =>
      exact .inr ⟨stop, rfl, rfl, rfl⟩
  | ok invocation =>
      exact .inl ⟨invocation, rfl, rfl, rfl⟩

/-- Two runs whose environments differ in nothing but the key end in the same way, write the same, and
make the same requests.  Each request carries the key of its run, behind the values that name a user
if the base names one. -/
theorem key_stays_in_authorization {around : Surroundings Transcript} {last : HttpReply}
    (hnetwork : around.network = Network.laidOut last) (htakes : TakesKey around)
    (h : Settings.Twins around.environment other key key') (replies : List HttpReply) :
    let first := run around (.ofReplies replies)
    let second := run { around with environment := other } (.ofReplies replies)
    second.status = first.status ∧
    second.output (filterOf { around with environment := other }) = first.output (filterOf around) ∧
    second.errors = first.errors ∧
    ∃ (user : List String) (requests : List HttpRequest),
      first.state.requests = requests.map (HttpRequest.askedBy (user ++ [key])) ∧
      second.state.requests = requests.map (HttpRequest.askedBy (user ++ [key'])) ∧
      ∀ invocation base,
        program.parse around.environment around.arguments = .ok invocation →
        HttpClient.baseOf (baseText around.environment (.ofInvocation invocation)) = .ok base →
        user = HttpClient.credentials base ∧ (HttpClient.userOf? base = none → user = []) := by
  intro first second
  have hfilter : filterOf { around with environment := other } = filterOf around := by
    unfold filterOf
    rw [h.get? (by decide)]
  rw [hfilter]
  obtain ⟨invocation, hparsed, hfirst, hsecond⟩ | ⟨stop, hparsed, hfirst, hsecond⟩ :=
    run_cases htakes h (.ofReplies replies)
  · let options := Options.ofInvocation invocation
    have hkey : options.apiKey = none := htakes.noKey invocation hparsed
    have hurl := htakes.noReference invocation hparsed
    have hurl' : ¬ ['$', '\x7b'] <:+: (baseText other options).toList := by
      rwa [baseText_of_twins h]
    have there : second = first.mapState
        (Transcript.askedBy (userValues around.environment options ++ [key'])) := by
      refine hsecond.trans (.trans ?_ (congrArg _ hfirst.symm))
      exact perform_of_twins h hkey hurl hnetwork hnetwork rfl rfl (.ofReplies replies)
    -- the same way back, so that the requests of both runs are requests of the first with other keys
    have back : first = second.mapState
        (Transcript.askedBy (userValues around.environment options ++ [key])) := by
      rw [← userValues_of_twins h]
      refine hfirst.trans (.trans ?_ (congrArg _ hsecond.symm))
      exact perform_of_twins h.symm hkey hurl' hnetwork hnetwork rfl rfl (.ofReplies replies)
    refine ⟨by rw [there]; rfl, by rw [there]; rfl, by rw [there]; rfl,
      userValues around.environment options, first.state.requests, ?_, ?_, ?_⟩
    · have hrequests := congrArg (fun session => session.state.requests) back
      rw [there] at hrequests
      refine hrequests.trans ?_
      exact (List.map_map ..).trans rfl
    · rw [there]
      rfl
    · intro invocation' base hparsed' hbase
      cases hparsed.symm.trans hparsed'
      have huser := userValues_of_baseOf hbase
      refine ⟨huser, fun hnone => ?_⟩
      rw [huser, HttpClient.credentials, hnone]
      rfl
  · have hsame : second = first := hsecond.trans hfirst.symm
    have hnone : first.state.requests = [] := by
      rw [show first = stopped stop (.ofReplies replies) from hfirst]
      cases stop <;> rfl
    refine ⟨by rw [hsame], by rw [hsame], by rw [hsame], [], [], hnone, hsame ▸ hnone, ?_⟩
    intro invocation base hparsed'
    cases hparsed.symm.trans hparsed'

/-! ## Two keys -/

/-- Whether a command line leaves the key to the environment, and the base refers to nothing: a check
that can be run. -/
def leavesKey (environment : Environment) (arguments : List String) : Bool :=
  (program.parse environment arguments).toOption.all fun invocation =>
    (Options.ofInvocation invocation).apiKey.isNone &&
      !Text.hasInfix ['$', '\x7b'] (baseText environment (.ofInvocation invocation)).toList

theorem takesKey_of_leavesKey {around : Surroundings σ}
    (hfile : ∃ problem, around.file assignmentsFile = .error problem)
    (hleaves : leavesKey around.environment around.arguments = true) : TakesKey around := by
  have hoptions : ∀ invocation,
      program.parse around.environment around.arguments = .ok invocation →
      (Options.ofInvocation invocation).apiKey = none ∧
        ¬ ['$', '\x7b'] <:+: (baseText around.environment (.ofInvocation invocation)).toList := by
    intro invocation hparsed
    rw [leavesKey, hparsed] at hleaves
    simpa [Except.toOption, ← Text.hasInfix_iff] using hleaves
  exact ⟨hfile, fun invocation hparsed => (hoptions invocation hparsed).1,
    fun invocation hparsed => (hoptions invocation hparsed).2⟩

/-- The environment that gives the base of a service and a key, and nothing else. -/
theorem twins_of_base (base : String) (plain : Settings.IsPlainKey key)
    (plain' : Settings.IsPlainKey key') :
    Settings.Twins [("API_URL", base), ("API_KEY", key)] [("API_URL", base), ("API_KEY", key')]
      key key' := by
  have hvariable : Settings.keyVariable [("API_URL", base), ("API_KEY", key)] = "API_KEY" := rfl
  refine ⟨fun name hname => ?_, ?_, ?_, plain, plain'⟩
  · rw [hvariable] at hname
    have hother : (name == "API_KEY") = false := beq_false_of_ne hname
    simp [Environment.get?, List.lookup_cons, hother]
  · rw [hvariable]
    rfl
  · rw [hvariable]
    rfl

/-- Two keys in front of a service that answers. -/
theorem two_keys_stay_in_authorization :
    let around : Surroundings Transcript := {
      arguments := ["dispatch", "--thng", "T1", "--payload", "\x7b\"key\":\"active\",\"value\":true\x7d"]
      environment := [("API_URL", "http://h/"), ("API_KEY", "one")]
      file := fun _ => .error TableFault.missingFile
      input := ""
      network := Network.laidOut (.answered 200 "true") }
    let other : Environment := [("API_URL", "http://h/"), ("API_KEY", "two")]
    around.network = Network.laidOut (.answered 200 "true") ∧ TakesKey around ∧
    Settings.Twins around.environment other "one" "two" ∧
    (run around (.ofReplies [])).state.requests.map HttpRequest.authorization = [["one"]] ∧
    (run { around with environment := other } (.ofReplies [])).state.requests.map
      HttpRequest.authorization = [["two"]] ∧
    (run { around with environment := other } (.ofReplies [])).output
        (filterOf { around with environment := other }) =
      (run around (.ofReplies [])).output (filterOf around) := by
  intro around other
  have htwins : Settings.Twins around.environment other "one" "two" :=
    twins_of_base "http://h/" (by decide) (by decide)
  have htakes : TakesKey around := takesKey_of_leavesKey ⟨_, rfl⟩ (by decide +kernel)
  exact ⟨rfl, htakes, htwins, by decide +kernel, by decide +kernel,
    (key_stays_in_authorization rfl htakes htwins []).2.1⟩

/-- A base that names a user has that user stand before the key, so that the key is not all that a
request says of who asks. -/
theorem user_stands_before_key :
    let around : Surroundings Transcript := {
      arguments := ["dispatch", "--thng", "T1", "--payload", "\x7b\"key\":\"active\",\"value\":true\x7d"]
      environment := [("API_URL", "http://u:p@h/"), ("API_KEY", "k")]
      file := fun _ => .error TableFault.missingFile
      input := ""
      network := Network.laidOut (.answered 200 "true") }
    let other : Environment := [("API_URL", "http://u:p@h/"), ("API_KEY", "l")]
    around.network = Network.laidOut (.answered 200 "true") ∧ TakesKey around ∧
    Settings.Twins around.environment other "k" "l" ∧
    (run around (.ofReplies [])).state.requests.map HttpRequest.authorization =
      [["Basic dTpw", "k"]] ∧
    (run { around with environment := other } (.ofReplies [])).state.requests.map
      HttpRequest.authorization = [["Basic dTpw", "l"]] ∧
    ¬ ∀ request ∈ (run around (.ofReplies [])).state.requests, request.authorization = ["k"] := by
  intro around other
  have htwins : Settings.Twins around.environment other "k" "l" :=
    twins_of_base "http://u:p@h/" (by decide) (by decide)
  have htakes : TakesKey around := takesKey_of_leavesKey ⟨_, rfl⟩ (by decide +kernel)
  exact ⟨rfl, htakes, htwins, by decide +kernel, by decide +kernel, by decide +kernel⟩

end Worker

end EventRules
