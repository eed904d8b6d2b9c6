import EventRules.CommandLine.Parse
import EventRules.Worker.Options

/-!
# Variables — what a command line takes from the environment

Reading a command line looks at the environment for the parameters that name a variable, and nowhere
else.  Two environments that agree on these variables lead to the same reading, help and faults
included.

* `Level.Agree`, `Program.Agree` — environments that agree on the variables of parameters;
* `Program.Agree.parse` — the reading of a command line;
* `Worker.agree_program` — the variables of the worker.
-/

namespace EventRules
namespace CommandLine

variable {environment other : Environment}

/-! ## One level -/

/-- The variables of the parameters of a level have the same values. -/
def Level.Agree (level : Level) (environment other : Environment) : Prop :=
  ∀ parameter ∈ level.parameters, ∀ name, parameter.environmentName = some name →
    other.get? name = environment.get? name

namespace Level.Agree

variable {level : Level}

theorem row (h : level.Agree environment other) {parameter : Parameter}
    (mem : parameter ∈ level.parameters) : parameter.row other = parameter.row environment := by
  unfold Parameter.row
  cases hname : parameter.environmentName with
  | none =>
      rfl
  | some name =>
      dsimp only
      rw [h parameter mem name hname]

theorem help (h : level.Agree environment other) : level.help other = level.help environment := by
  have hrows : level.parameters.map (Parameter.row other) =
      level.parameters.map (Parameter.row environment) :=
    List.map_congr_left fun _ mem => h.row mem
  unfold Level.help
  rw [hrows]

theorem supply (h : level.Agree environment other) (given : Given) {parameter : Parameter}
    (mem : parameter ∈ level.parameters) :
    level.supply other given parameter = level.supply environment given parameter := by
  unfold Level.supply
  cases hname : parameter.environmentName with
  | none =>
      rfl
  | some name =>
      dsimp only [Option.bind]
      rw [h parameter mem name hname]

theorem supplyAll (h : level.Agree environment other) (given : Given) {parameters : List Parameter}
    (mem : parameters ⊆ level.parameters) :
    parameters.foldlM (level.supply other) given =
      parameters.foldlM (level.supply environment) given := by
  induction parameters generalizing given with
  | nil =>
      rfl
  | cons parameter rest ih =>
      rw [List.foldlM_cons, List.foldlM_cons, h.supply given (mem (List.mem_cons_self ..))]
      exact congrArg _ (funext fun next => ih next fun _ later => mem (List.mem_cons_of_mem _ later))

theorem complete (h : level.Agree environment other) (given : Given) :
    level.complete other given = level.complete environment given :=
  congrArg (level.settle given >>= ·) (funext fun settled => h.supplyAll settled fun _ mem => mem)

end Level.Agree

/-! ## All levels -/

structure Program.Agree (program : Program) (environment other : Environment) : Prop where
  top : program.top.Agree environment other
  command : ∀ command ∈ program.commands, (program.level command).Agree environment other

namespace Program.Agree

variable {program : Program}

theorem ofWord (h : program.Agree environment other) {word : String} {command : Command}
    (hword : program.top.command? word = some command) :
    (program.level command).Agree environment other :=
  h.command command (List.mem_of_find?_eq_some hword)

theorem helpOn (h : program.Agree environment other) (words : List String) :
    program.helpOn other words = program.helpOn environment words := by
  cases words with
  | nil =>
      exact congrArg Stop.help h.top.help
  | cons word rest =>
      unfold Program.helpOn
      dsimp only
      split
      · rfl
      · split
        · rfl
        · rename_i command hword
          rw [(h.ofWord hword).help]

theorem parseCommand {command : Command} (h : (program.level command).Agree environment other)
    (words : List String) :
    program.parseCommand other command words = program.parseCommand environment command words := by
  unfold Program.parseCommand Program.answers
  simp only [h.help, h.complete]

theorem parseBehind (h : program.Agree environment other)
    (behind : Option (String × List String)) :
    program.parseBehind other behind = program.parseBehind environment behind := by
  unfold Program.parseBehind
  split
  · rfl
  · split
    · rw [h.helpOn]
    · rename_i command hword
      rw [parseCommand (h.ofWord hword)]

/-- Nothing but the variables of parameters has a part in the reading of a command line. -/
theorem parse (h : program.Agree environment other) (words : List String) :
    program.parse other words = program.parse environment words := by
  unfold Program.parse Program.answers
  simp only [h.top.help, h.parseBehind, h.top.complete]

end Program.Agree
end CommandLine

/-! ## The worker -/

namespace Worker

open CommandLine

/-- The worker has two parameters with a variable; its commands have none. -/
theorem agree_program {environment other : Environment}
    (hrules : other.get? "REACTOR_RULES" = environment.get? "REACTOR_RULES")
    (hdryRun : other.get? "REACTOR_DRY_RUN" = environment.get? "REACTOR_DRY_RUN") :
    program.Agree environment other where
  top := by
    intro parameter mem name hname
    simp only [Program.top, program, List.cons_append, List.nil_append, List.mem_cons,
      List.not_mem_nil, or_false] at mem
    rcases mem with rfl | rfl | rfl | rfl | rfl | rfl <;> cases hname
    · exact hrules
    · exact hdryRun
  command := by
    have hnone : ∀ command ∈ program.commands, ∀ parameter ∈ (program.level command).parameters,
        parameter.environmentName = none := by
      decide
    intro command hcommand parameter mem name hname
    rw [hnone command hcommand parameter mem] at hname
    cases hname

end Worker

end EventRules
