import EventRules.CommandLine.Fault
import EventRules.CommandLine.Usage
import EventRules.Text.Similar

/-!
# Parse — reading a command line

The words are read from the left.  A word is a command, a parameter, or the value of the parameter
before it; two dashes by themselves end all that.  A parameter that waits for its value is looked at
when the next parameter comes, or at the end, and that of the program only when its command is right.

* `Word` — what a word looks like;
* `Level.scan` — the words of one level, up to a command;
* `Program.parse` — a whole command line, with the environment for what it leaves out.
-/

namespace EventRules
namespace CommandLine

/-- What a program is asked to do. -/
structure Invocation where
  /-- The values of the parameters of the program, by name. -/
  values : List (String × String)
  command : String
  /-- The values of the parameters of the command. -/
  commandValues : List (String × String)
  deriving DecidableEq

/-- Why a command line does not ask for work. -/
inductive Stop where
  | help (text : String)
  | version (text : String)
  /-- Nothing was given, so that help is in order. -/
  | nothing (text : String)
  | error (error : UsageError)
  deriving DecidableEq

/-- What help and version have to say. -/
structure Answers where
  help : String
  version : String

/-! ## Words -/

inductive Word where
  | dashes
  | long (name : String) (value : Option String)
  | letter (c : Char)
  | plain
  deriving DecidableEq

/-- The text behind the first equals sign, and the text before it. -/
def splitEquals : List Char → List Char × Option (List Char)
  | [] => ([], none)
  | '=' :: rest => ([], some rest)
  | c :: rest =>
      let (name, value) := splitEquals rest
      (c :: name, value)

/-- What a word looks like; a single dash is a plain word. -/
def Word.ofText (word : String) : Word :=
  match word.toList with
  | ['-', '-'] => .dashes
  | '-' :: '-' :: rest =>
      let (name, value) := splitEquals rest
      .long (String.ofList name) (value.map String.ofList)
  | '-' :: c :: _ => .letter c
  | _ => .plain

/-! ## What was given -/

/-- What was given on a level so far. -/
structure Given where
  /-- In the order in which it was given. -/
  values : List (Parameter × String)
  /-- A parameter that has not been looked at yet, with its value if that has come. -/
  pending : Option (Parameter × Option String)
  deriving DecidableEq

namespace Given

def nothing : Given := ⟨[], none⟩

def has (given : Given) (parameter : Parameter) : Bool :=
  given.values.any fun (p, _) => p.name == parameter.name

/-- Whether the next word may be the value of a parameter. -/
def isWaiting (given : Given) : Bool :=
  match given.pending with
  | some (_, none) => true
  | _ => false

def parameters (given : Given) : List Parameter := given.values.map fun (p, _) => p

def named (given : Given) : List (String × String) := given.values.map fun (p, s) => (p.name, s)

/-- The given parameters as a usage shows them, one more behind them. -/
def usedWith (given : Given) (parameter : Parameter) : List Parameter :=
  given.parameters ++ [parameter]

end Given

/-! ## Faults of a level -/

namespace Level

def fail {α : Type} (fault : UsageFault) (usage : Option String) : Except Stop α :=
  .error (.error ⟨fault, usage, true⟩)

/-- The most similar of some names. -/
def closest? (word : String) (names : List String) : Option String :=
  (Text.similar word names).getLast?

/-- A command with a similar parameter; of several the one whose name comes first in what follows. -/
def elsewhere? (name : String) (following : List String) (commands : List Command) : Option Hint :=
  following.findSome? fun word =>
    (commands.find? fun command => command.name == word).bind fun command =>
      (closest? name (command.allParameters.map Parameter.name)).map fun similar =>
        .elsewhere command.name similar

def unknownLong {α : Type} (level : Level) (given : Given) (name : String)
    (following : List String) : Except Stop α :=
  let written := "--" ++ name
  match (closest? name (level.parameters.map Parameter.name)).bind level.parameter? with
  | some similar =>
      fail (.unknownParameter written (some (.similarParameter similar.name)))
        (some (level.usageWith (given.usedWith similar)))
  | none =>
      fail (.unknownParameter written (elsewhere? name following level.commands))
        (some (level.usageWith given.parameters))

/-- A word that is neither a command, nor a parameter, nor a value. -/
def stray {α : Type} (level : Level) (behindDashes : Bool) (word : String) : Except Stop α :=
  let usage := some level.usage
  if behindDashes && level.commandWords.contains word then
    fail (.unknownParameter word (some (.behindDashes word))) usage
  else if level.commands.isEmpty then fail (.unknownParameter word none) usage
  else
    match Text.similar word level.commandWords with
    | [] => fail (.unknownCommand word none) usage
    | similar => fail (.unknownCommand word (some (.similarCommands similar))) usage

/-! ## Values -/

/-- Whether a value is right for a parameter. -/
def checkValue (parameter : Parameter) (value : String) : Except Stop Unit :=
  match parameter.kind with
  | .value _ mayBeEmpty =>
      if value = "" && !mayBeEmpty then fail (.noValue parameter) none else .ok ()
  | _ =>
      if parameter.possibleValues.contains value then .ok ()
      else if value = "" then fail (.noValue parameter) none
      else
        let hint := (closest? value parameter.possibleValues).map Hint.similarValue
        fail (.badValue parameter value hint) none

/-- Records a value of a parameter. -/
def accept (level : Level) (parameter : Parameter) (value : String) (given : Given) :
    Except Stop Given := do
  if given.has parameter then fail (.repeated parameter) (some level.usage)
  else
    checkValue parameter value
    return { given with values := given.values ++ [(parameter, value)] }

/-- Looks at the parameter that has not been looked at. -/
def settle (level : Level) (given : Given) : Except Stop Given :=
  match given.pending with
  | none => .ok given
  | some (parameter, none) => fail (.noValue parameter) none
  | some (parameter, some value) => level.accept parameter value { given with pending := none }

/-! ## Parameters -/

/-- A parameter that was written without a value. -/
def bare (level : Level) (answers : Answers) (given : Given) (parameter : Parameter) :
    Except Stop Given := do
  let given ← level.settle given
  match parameter.kind with
  | .value _ _ => return { given with pending := some (parameter, none) }
  | .flag => level.accept parameter "true" given
  | .help => .error (.help answers.help)
  | .version => .error (.version answers.version)

def long (level : Level) (answers : Answers) (given : Given) (name : String)
    (value : Option String) (following : List String) : Except Stop Given :=
  match level.parameter? name, value with
  | none, _ => level.unknownLong given name following
  | some parameter, none => level.bare answers given parameter
  | some parameter, some value =>
      if parameter.takesValue then do
        level.accept parameter value (← level.settle given)
      else
        fail (.excessValue parameter value) (some (level.usageWith (given.usedWith parameter)))

def letter (level : Level) (answers : Answers) (given : Given) (c : Char) : Except Stop Given :=
  match level.byLetter? c with
  | some parameter => level.bare answers given parameter
  | none => fail (.unknownParameter ("-" ++ c.toString) none) (some level.usage)

/-! ## Levels -/

/-- The parameters of a level, and a command word with what follows it. -/
structure Scanned where
  given : Given
  behind : Option (String × List String)

/-- Reads words up to a command; help and version end the reading. -/
def scan (level : Level) (answers : Answers) : Given → List String → Except Stop Scanned
  | given, [] => .ok ⟨given, none⟩
  | given, word :: rest =>
      if !given.isWaiting && level.commandWords.contains word then .ok ⟨given, some (word, rest)⟩
      else
        match Word.ofText word with
        | .dashes =>
            match rest with
            | [] => .ok ⟨given, none⟩
            | next :: _ => level.stray true next
        | .long name value => do
            level.scan answers (← level.long answers given name value rest) rest
        | .letter c => do level.scan answers (← level.letter answers given c) rest
        | .plain =>
            match given.pending with
            | some (parameter, none) =>
                level.scan answers { given with pending := some (parameter, some word) } rest
            | _ => level.stray false word

/-- Takes the value of a parameter that was not given from its variable. -/
def supply (level : Level) (environment : Environment) (given : Given) (parameter : Parameter) :
    Except Stop Given :=
  match parameter.environmentName.bind environment.get? with
  | none => .ok given
  | some value => if given.has parameter then .ok given else level.accept parameter value given

/-- What is given when all words have been read. -/
def complete (level : Level) (environment : Environment) (given : Given) : Except Stop Given := do
  level.parameters.foldlM (level.supply environment) (← level.settle given)

end Level

/-! ## Programs -/

namespace Program

def answers (program : Program) (environment : Environment) (level : Level) : Answers :=
  ⟨level.help environment, program.name ++ " " ++ program.version ++ "\n"⟩

/-- Help about what the words behind the help word name. -/
def helpOn (program : Program) (environment : Environment) : List String → Stop
  | [] => .help (program.top.help environment)
  | word :: rest =>
      let unknown (word usage : String) (offersHelp : Bool) : Stop :=
        .error ⟨.unknownCommand word none, some usage, offersHelp⟩
      if word = helpWord then
        match rest with
        | [] => .help program.helpOnHelp
        | next :: _ => unknown next program.helpUsage false
      else
        match program.top.command? word with
        | none => unknown word program.top.usage true
        | some command =>
            match rest with
            | [] => .help ((program.level command).help environment)
            | next :: _ => unknown next (program.level command).usage true

/-- The parameters of a command. -/
def parseCommand (program : Program) (environment : Environment) (command : Command)
    (words : List String) : Except Stop Given := do
  let level := program.level command
  let scanned ← level.scan (program.answers environment level) .nothing words
  let given ← level.complete environment scanned.given
  match level.requiredParameters.filter fun parameter => !given.has parameter with
  | [] => return given
  | missing =>
      Level.fail (.missingParameters missing) (some (level.usageWith given.parameters))

/-- What follows the parameters of the program: a command, if there is one. -/
def parseBehind (program : Program) (environment : Environment) :
    Option (String × List String) → Except Stop (Option (String × Given))
  | none => .ok none
  | some (word, rest) =>
      match program.top.command? word with
      | none => .error (program.helpOn environment rest)
      | some command => do
          return some (command.name, ← program.parseCommand environment command rest)

def parse (program : Program) (environment : Environment) (words : List String) :
    Except Stop Invocation := do
  let level := program.top
  let scanned ← level.scan (program.answers environment level) .nothing words
  let behind ← program.parseBehind environment scanned.behind
  let given ← level.complete environment scanned.given
  match behind with
  | some (command, own) => return ⟨given.named, command, own.named⟩
  | none =>
      if given.values.isEmpty then throw (.nothing (level.help environment))
      else
        Level.fail (.missingCommand program.name level.commandWords) (some level.usage)

end Program

end CommandLine
end EventRules
