import EventRules.CommandLine.Basic
import EventRules.Settings.Reference

/-!
# Usage — how a program says how it is used

* `Level.usage` — the general form of a command line;
* `Level.usageWith` — the form with parameters that someone used;
* `Level.help` — all commands and parameters of a level.
-/

namespace EventRules
namespace CommandLine

/-! ## Usages -/

namespace Level

def requiredParameters (level : Level) : List Parameter :=
  level.parameters.filter Parameter.isRequired

def commandPart (level : Level) : List String :=
  if level.commands.isEmpty then [] else ["<COMMAND>"]

def usage (level : Level) : String :=
  let options := if level.parameters.any Parameter.isOption then ["[OPTIONS]"] else []
  " ".intercalate
    (level.title :: options ++ level.requiredParameters.map Parameter.shown ++ level.commandPart)

/-- The usage that lists certain parameters beside the required ones. -/
def usageWith (level : Level) (used : List Parameter) : String :=
  if used.isEmpty then level.usage
  else
    let listed := (level.requiredParameters ++ used).eraseDups
    " ".intercalate (level.title :: listed.map Parameter.shown ++ level.commandPart)

end Level

/-! ## Help -/

/-- Lines of two columns; the second one begins two places behind the longest text of the first. -/
def columns (rows : List (String × String)) : String :=
  let width := (rows.map fun (left, _) => left.length).foldl max 0
  let row : String × String → String := fun (left, right) =>
    "  " ++ left ++ String.ofList (List.replicate (width - left.length + 2) ' ') ++ right ++ "\n"
  String.join (rows.map row)

/-- What help says about a parameter; it tells the present value of its variable. -/
def Parameter.row (environment : Environment) (parameter : Parameter) : String × String :=
  let left :=
    match parameter.letter with
    | some c => "-" ++ c.toString ++ ", " ++ parameter.shown
    | none => "    " ++ parameter.shown
  let right :=
    match parameter.environmentName with
    | some name =>
        parameter.about ++ " [env: " ++ name ++ "=" ++ (environment.get? name).getD "" ++ "]"
    | none => parameter.about
  (left, right)

def helpText (about usage : String) (sections : List (String × List (String × String))) : String :=
  let part : String × List (String × String) → String := fun (title, rows) =>
    "\n" ++ title ++ ":\n" ++ columns rows
  about ++ "\n\nUsage: " ++ usage ++ "\n" ++ String.join (sections.map part)

namespace Level

def commandRows (level : Level) : List (String × String) :=
  level.commands.map (fun command => (command.name, command.about)) ++ [(helpWord, helpAbout)]

def help (environment : Environment) (level : Level) : String :=
  let options := ("Options", level.parameters.map (Parameter.row environment))
  helpText level.about level.usage
    (if level.commands.isEmpty then [options] else [("Commands", level.commandRows), options])

end Level

/-! ## Help about help -/

def Program.helpUsage (program : Program) : String :=
  program.name ++ " " ++ helpWord ++ " [COMMAND]..."

def Program.helpOnHelp (program : Program) : String :=
  helpText helpAbout program.helpUsage
    [("Arguments", [("[COMMAND]...", "Print help for the subcommand(s)")])]

end CommandLine
end EventRules
