import EventRules.Proofs.CommandLine.Variables
import EventRules.Proofs.Settings.Precedence
import EventRules.Worker.Run

/-!
# Configuration — where the worker takes its settings from

The settings of the remote service come from the command line, from the variables of the active
profile, from the plain variables, or they are the usual ones, in this order.  The variables are those
of the environment and, where that has none, those that a file assigns.

* `Worker.assignmentsOf`, `Worker.environmentOf_eq` — the variables;
* `Worker.serviceSettings` — the settings of the remote service of a run;
* `Worker.configured_by_precedence` — what each of them is, and what they do not depend on.
-/

namespace EventRules
namespace Worker

variable {σ : Type}

/-- The assignments of the file of variables; none, if it cannot be read. -/
def assignmentsOf (around : Surroundings σ) : List Assignment :=
  match around.file assignmentsFile with
  | .ok text => Assignments.ofText text
  | .error _ => []

theorem environmentOf_eq (around : Surroundings σ) :
    environmentOf around = around.environment.supplyAll (assignmentsOf around) := by
  unfold environmentOf assignmentsOf
  cases around.file assignmentsFile <;> rfl

/-- The settings of the remote service, with what the command line says about them. -/
def serviceSettings (environment : Environment) (options : Options) : ApiSettings :=
  options.apiSettings (Settings.ofEnvironment environment).api

theorem serviceSettings_eq (environment : Environment) (options : Options) :
    let chosen := Settings.lookup environment (Settings.activeProfile environment)
    serviceSettings environment options =
      { url := options.apiUrl.getD ((chosen "API_URL").getD Settings.defaultUrl)
        key := options.apiKey.or (chosen "API_KEY")
        timeoutSeconds := ((chosen "API_TIMEOUT_SECS").bind Settings.seconds?).getD
          Settings.defaultTimeoutSeconds } := by
  unfold serviceSettings Options.apiSettings Settings.ofEnvironment Settings.ofProfile
    Settings.activeProfile
  dsimp only
  rw [Option.or_eq_orElse]

/-- The service that is not a dry run is set up from these settings. -/
theorem chooseApi_of_notDry (around : Surroundings σ) (environment : Environment)
    {options : Options} (hdry : options.dryRun = false) :
    (chooseApi around environment options (Settings.ofEnvironment environment).api).2 =
      (HttpClient.ofSettings environment (serviceSettings environment options)).map
        fun client => client.api around.network := by
  rw [chooseApi, hdry, if_neg Bool.false_ne_true, serviceSettings]

/-- The command line is read as it is whatever variables other profiles have. -/
theorem parse_of_agreeOff {profile : String} {environment other : Environment}
    (h : Environment.AgreeOff (Settings.OfOtherProfile profile) environment other)
    (words : List String) : program.parse other words = program.parse environment words := by
  refine CommandLine.Program.Agree.parse (agree_program ?_ ?_) words
  · exact h _ (Settings.not_ofOtherProfile_of_plain (by decide) profile)
  · exact h _ (Settings.not_ofOtherProfile_of_plain (by decide) profile)

/-- What the settings of the remote service are, for any environment and any assignments. -/
theorem configured_by_precedence (environment : Environment) (assignments : List Assignment) :
    let supplied := environment.supplyAll assignments
    let profile := Settings.activeProfile supplied
    -- a name with a text keeps it, and a name without one takes that of the first assignment to it
    (∀ name text, environment.get? name = some text → supplied.get? name = some text) ∧
    (∀ before assignment after, assignments = before ++ assignment :: after →
      environment.get? assignment.name = none →
      (∀ earlier ∈ before, earlier.name ≠ assignment.name) →
      supplied.get? assignment.name =
        some ((environment.supplyAll before).assigned assignment)) ∧
    (∀ name, environment.get? name = none →
      (∀ assignment ∈ assignments, assignment.name ≠ name) → supplied.get? name = none) ∧
    -- each setting is that of the command line, of the profile, the plain one, or the usual one
    (∀ options : Options, ∃ url key timeout seconds,
      Settings.Chooses supplied profile "API_URL" url ∧
      Settings.Chooses supplied profile "API_KEY" key ∧
      Settings.Chooses supplied profile "API_TIMEOUT_SECS" timeout ∧
      Settings.SecondsOf timeout seconds ∧
      serviceSettings supplied options =
        { url := options.apiUrl.getD (url.getD Settings.defaultUrl)
          key := options.apiKey.or key
          timeoutSeconds := seconds }) ∧
    -- the variables of other profiles have no part in this, neither those of the environment that
    -- the assignments lead to nor, as far as no other value refers to them, those assigned or before
    (∀ other : Environment, supplied.AgreeOff (Settings.OfOtherProfile profile) other →
      Settings.ofEnvironment other = Settings.ofEnvironment supplied ∧
      ∀ words, program.parse other words = program.parse supplied words) ∧
    (∀ (other : Environment) (others : List Assignment),
      environment.AgreeOff (Settings.OfOtherProfile profile) other →
      (others.filter fun assignment => ¬ Settings.OfOtherProfile profile assignment.name) =
        assignments.filter (fun assignment => ¬ Settings.OfOtherProfile profile assignment.name) →
      (∀ assignment ∈ assignments, ¬ Settings.OfOtherProfile profile assignment.name →
        Environment.Open (Settings.OfOtherProfile profile) assignment) →
      Settings.ofEnvironment (other.supplyAll others) = Settings.ofEnvironment supplied ∧
      ∀ words, program.parse (other.supplyAll others) words = program.parse supplied words) ∧
    -- it is from these settings that a run reaches its service
    ∀ {σ : Type} (around : Surroundings σ) (state : σ) (invocation : CommandLine.Invocation),
      around.environment = environment → assignmentsOf around = assignments →
      program.parse supplied around.arguments = .ok invocation →
      let options := Options.ofInvocation invocation
      run around state = perform around supplied options state ∧
      (options.dryRun = false →
        (chooseApi around supplied options (Settings.ofEnvironment supplied).api).2 =
          (HttpClient.ofSettings supplied (serviceSettings supplied options)).map
            fun client => client.api around.network) := by
  intro supplied profile
  have hfinal (other : Environment)
      (h : supplied.AgreeOff (Settings.OfOtherProfile profile) other) :
      Settings.ofEnvironment other = Settings.ofEnvironment supplied ∧
        ∀ words, program.parse other words = program.parse supplied words :=
    ⟨Settings.ofEnvironment_of_agreeOff h, parse_of_agreeOff h⟩
  refine ⟨fun name text h => Environment.get?_supplyAll_of_some h assignments, ?_,
    fun name hmissing hapart => (Environment.get?_supplyAll_of_apart hapart).trans hmissing,
    fun options => ?_, hfinal, fun other others h hsame hopen => hfinal _ (h.supplyAll hsame hopen),
    ?_⟩
  · rintro before assignment after hsplit hmissing hfirst
    rw [show supplied = environment.supplyAll (before ++ assignment :: after) from
      congrArg environment.supplyAll hsplit]
    exact Environment.get?_supplyAll_of_first hmissing hfirst after
  · exact ⟨_, _, _, _, Settings.chooses_lookup supplied profile "API_URL",
      Settings.chooses_lookup supplied profile "API_KEY",
      Settings.chooses_lookup supplied profile "API_TIMEOUT_SECS",
      Settings.secondsOf_bind _, serviceSettings_eq supplied options⟩
  · rintro σ around state invocation rfl rfl hparsed
    refine ⟨?_, chooseApi_of_notDry around supplied⟩
    rw [run, environmentOf_eq]
    simp only [supplied, hparsed]

/-- The profile decides on the time, an empty key that was there stays, and the first of two bases is
taken; the base of another profile changes nothing. -/
theorem staging_is_not_asked :
    let literal (text : String) : List ValuePart := text.toList.map .literal
    let environment : Environment := [
      ("REACTOR_PROFILE", "prod"), ("PROD_API_TIMEOUT_SECS", "soon"), ("API_TIMEOUT_SECS", "7"),
      ("API_KEY", "")]
    let assignments : List Assignment := [
      ⟨"API_KEY", literal "k"⟩, ⟨"PROD_API_URL", literal "http://first/"⟩,
      ⟨"PROD_API_URL", literal "http://second/"⟩]
    let options : Options := ⟨none, false, none, none, .run none⟩
    serviceSettings (environment.supplyAll assignments) options = ⟨"http://first/", none, 30⟩ ∧
    ∀ text, serviceSettings
        (Environment.supplyAll (("STAGING_API_URL", text) :: environment)
          (⟨"STAGING_API_KEY", literal "s"⟩ :: assignments)) options =
      ⟨"http://first/", none, 30⟩ := by
  intro literal environment assignments options
  have hsettings : serviceSettings (environment.supplyAll assignments) options =
      ⟨"http://first/", none, 30⟩ := by
    decide +kernel
  refine ⟨hsettings, fun text => ?_⟩
  obtain ⟨-, -, -, -, -, hothers, -⟩ := configured_by_precedence environment assignments
  have hprofile : Settings.activeProfile (environment.supplyAll assignments) = "PROD" := by
    decide +kernel
  rw [hprofile] at hothers
  have hagree : environment.AgreeOff (Settings.OfOtherProfile "PROD")
      (("STAGING_API_URL", text) :: environment) := by
    intro name hname
    have hother : name ≠ "STAGING_API_URL" := fun same => hname (same ▸ by decide +kernel)
    rw [Environment.get?, List.lookup_cons, beq_false_of_ne hother]
    rfl
  have hopen : ∀ assignment ∈ assignments,
      Environment.Open (Settings.OfOtherProfile "PROD") assignment := by
    intro assignment hmem
    simp only [assignments, List.mem_cons, List.not_mem_nil, or_false] at hmem
    rcases hmem with rfl | rfl | rfl <;> exact Environment.open_literal _ _ _
  have hsame := (hothers (("STAGING_API_URL", text) :: environment)
    (⟨"STAGING_API_KEY", literal "s"⟩ :: assignments) hagree (by decide +kernel)
    fun assignment hmem _ => hopen assignment hmem).1
  rw [serviceSettings, hsame]
  exact hsettings

end Worker
end EventRules
