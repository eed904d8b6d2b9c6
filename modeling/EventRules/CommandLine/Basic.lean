/-!
# Basic — what a command line can hold

A program has parameters and commands; a command has parameters of its own.  A parameter is named by
two dashes and a word, or by one dash and a letter, and takes a value or none.

* `Parameter`, `Command`, `Program` — what can be given;
* `Level` — the part of a program that one stretch of its command line is about.
-/

namespace EventRules
namespace CommandLine

inductive ParameterKind where
  /-- Takes a value, which usages call by a placeholder. -/
  | value (placeholder : String) (mayBeEmpty : Bool)
  /-- Is given or not. -/
  | flag
  /-- Asks how the program is used. -/
  | help
  | version
  deriving DecidableEq

structure Parameter where
  name : String
  letter : Option Char
  kind : ParameterKind
  about : String
  /-- The environment variable that gives the value when the command line does not. -/
  environmentName : Option String
  isRequired : Bool
  deriving DecidableEq

structure Command where
  name : String
  about : String
  parameters : List Parameter
  deriving DecidableEq

structure Program where
  name : String
  version : String
  about : String
  parameters : List Parameter
  commands : List Command
  deriving DecidableEq

namespace Parameter

/-- A parameter that takes a value. -/
def ofValue (name placeholder about : String) : Parameter :=
  ⟨name, none, .value placeholder true, about, none, false⟩

/-- A parameter that takes the path of a file. -/
def ofPath (name placeholder about : String) : Parameter :=
  ⟨name, none, .value placeholder false, about, none, false⟩

def ofFlag (name about : String) : Parameter := ⟨name, none, .flag, about, none, false⟩

def required (parameter : Parameter) : Parameter := { parameter with isRequired := true }

def fromEnvironment (name : String) (parameter : Parameter) : Parameter :=
  { parameter with environmentName := some name }

def help : Parameter := ⟨"help", some 'h', .help, "Print help", none, false⟩

def version : Parameter := ⟨"version", some 'V', .version, "Print version", none, false⟩

/-- The parameter as it is written, with a placeholder for its value. -/
def shown (parameter : Parameter) : String :=
  "--" ++ parameter.name ++
    match parameter.kind with
    | .value placeholder _ => " <" ++ placeholder ++ ">"
    | _ => ""

def takesValue (parameter : Parameter) : Bool :=
  match parameter.kind with
  | .value _ _ => true
  | _ => false

/-- The only values that are right; none are listed if every value is. -/
def possibleValues (parameter : Parameter) : List String :=
  match parameter.kind with
  | .flag => ["true", "false"]
  | _ => []

/-- Whether usages count the parameter among the options that they do not list. -/
def isOption (parameter : Parameter) : Bool :=
  match parameter.kind with
  | .value _ _ => !parameter.isRequired
  | .flag => true
  | .help => false
  | .version => false

end Parameter

/-! ## Levels -/

/-- What one stretch of a command line is about: the program or one of its commands. -/
structure Level where
  /-- The words that lead to the level. -/
  title : String
  about : String
  parameters : List Parameter
  commands : List Command
  deriving DecidableEq

/-- The word that asks for help about a command. -/
def helpWord : String := "help"

def helpAbout : String := "Print this message or the help of the given subcommand(s)"

namespace Level

/-- All words that are commands on a level. -/
def commandWords (level : Level) : List String :=
  if level.commands.isEmpty then [] else level.commands.map Command.name ++ [helpWord]

def command? (level : Level) (word : String) : Option Command :=
  level.commands.find? fun command => command.name == word

def parameter? (level : Level) (name : String) : Option Parameter :=
  level.parameters.find? fun parameter => parameter.name == name

def byLetter? (level : Level) (letter : Char) : Option Parameter :=
  level.parameters.find? fun parameter => parameter.letter == some letter

end Level

/-- The parameters that a command understands. -/
def Command.allParameters (command : Command) : List Parameter := command.parameters ++ [.help]

def Program.top (program : Program) : Level :=
  ⟨program.name, program.about, program.parameters ++ [.help, .version], program.commands⟩

def Program.level (program : Program) (command : Command) : Level :=
  ⟨program.name ++ " " ++ command.name, command.about, command.allParameters, []⟩

end CommandLine
end EventRules
