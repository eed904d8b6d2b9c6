import EventRules.CommandLine.Basic

/-!
# Fault — what is wrong with a command line

* `UsageFault` — the kinds of faults, with what may have been meant;
* `UsageError` — a fault and what is said beside it, `UsageError.message` — all of it as one text.
-/

namespace EventRules
namespace CommandLine

/-- What someone may have meant. -/
inductive Hint where
  | similarParameter (name : String)
  | similarValue (value : String)
  | similarCommands (names : List String)
  /-- The parameter belongs behind a command. -/
  | elsewhere (command parameter : String)
  /-- A command stands behind two dashes, where it is not looked for. -/
  | behindDashes (command : String)
  deriving DecidableEq

inductive UsageFault where
  | unknownCommand (word : String) (hint : Option Hint)
  | unknownParameter (word : String) (hint : Option Hint)
  | repeated (parameter : Parameter)
  | noValue (parameter : Parameter)
  | badValue (parameter : Parameter) (value : String) (hint : Option Hint)
  | excessValue (parameter : Parameter) (value : String)
  | missingParameters (parameters : List Parameter)
  | missingCommand (program : String) (commands : List String)
  deriving DecidableEq

structure UsageError where
  fault : UsageFault
  /-- The form that the command line should have. -/
  usage : Option String
  /-- Whether there is a parameter that asks for help. -/
  offersHelp : Bool
  deriving DecidableEq

/-! ## Texts -/

def inQuotes (s : String) : String := "'" ++ s ++ "'"

namespace Hint

def message : Hint → String
  | .similarParameter name => "a similar argument exists: " ++ inQuotes ("--" ++ name)
  | .similarValue value => "a similar value exists: " ++ inQuotes value
  | .similarCommands names =>
      (match names with
        | [_] => "a similar subcommand exists: "
        | _ => "some similar subcommands exist: ") ++
      ", ".intercalate (names.map inQuotes)
  | .elsewhere command parameter => inQuotes (command ++ " --" ++ parameter) ++ " exists"
  | .behindDashes command =>
      "subcommand " ++ inQuotes command ++ " exists; to use it, remove the '--' before it"

end Hint

namespace UsageFault

/-- A line with the only right values, if there are any to list. -/
def valueList (parameter : Parameter) : String :=
  match parameter.possibleValues with
  | [] => ""
  | values => "\n  [possible values: " ++ ", ".intercalate values ++ "]"

def headline : UsageFault → String
  | .unknownCommand word _ => "unrecognized subcommand " ++ inQuotes word
  | .unknownParameter word _ => "unexpected argument " ++ inQuotes word ++ " found"
  | .repeated parameter =>
      "the argument " ++ inQuotes parameter.shown ++ " cannot be used multiple times"
  | .noValue parameter =>
      "a value is required for " ++ inQuotes parameter.shown ++ " but none was supplied" ++
        valueList parameter
  | .badValue parameter value _ =>
      "invalid value " ++ inQuotes value ++ " for " ++ inQuotes parameter.shown ++
        valueList parameter
  | .excessValue parameter value =>
      "unexpected value " ++ inQuotes value ++ " for " ++ inQuotes parameter.shown ++
        " found; no more were expected"
  | .missingParameters parameters =>
      "the following required arguments were not provided:" ++
        String.join (parameters.map fun parameter => "\n  " ++ parameter.shown)
  | .missingCommand program commands =>
      inQuotes program ++ " requires a subcommand but one was not provided\n  [subcommands: " ++
        ", ".intercalate commands ++ "]"

def hint? : UsageFault → Option Hint
  | .unknownCommand _ hint => hint
  | .unknownParameter _ hint => hint
  | .badValue _ _ hint => hint
  | _ => none

end UsageFault

namespace UsageError

def message (error : UsageError) : String :=
  let tip :=
    match error.fault.hint? with
    | some hint => "\n\n  tip: " ++ hint.message
    | none => ""
  let usage :=
    match error.usage with
    | some usage => "\n\nUsage: " ++ usage
    | none => ""
  let help := if error.offersHelp then "\n\nFor more information, try '--help'.\n" else "\n"
  "error: " ++ error.fault.headline ++ tip ++ usage ++ help

end UsageError

end CommandLine
end EventRules
