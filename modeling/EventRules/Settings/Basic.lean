import EventRules.Json.Printer
import EventRules.Log
import EventRules.Number.Numeral
import EventRules.Settings.Reference
import EventRules.Text.Case

/-!
# Settings — where the remote service is and how to reach it

Each setting is a variable of the environment.  While a profile is active its own variables, which
have its name in front, come first.  An empty variable counts as none.

* `Settings.ofProfile`, `Settings.ofEnvironment` — the settings that an environment gives;
* `Settings.summary` — what is logged about them, without the key.
-/

namespace EventRules

structure ApiSettings where
  /-- May refer to variables. -/
  url : String
  key : Option String
  timeoutSeconds : Nat
  deriving DecidableEq

structure Settings where
  /-- The name of the active profile; empty if there is none. -/
  profile : String
  api : ApiSettings
  deriving DecidableEq

def ApiSettings.isConfigured (settings : ApiSettings) : Bool := settings.key.isSome

namespace Settings

def defaultUrl : String := "https://api.evrythng.com"

def defaultTimeoutSeconds : Nat := 30

def profileVariable : String := "REACTOR_PROFILE"

/-- The value of a setting: that of the profile, or else the plain one. -/
def lookup (environment : Environment) (profile key : String) : Option String :=
  let own := if profile = "" then none else environment.nonEmpty? (profile ++ "_" ++ key)
  own.orElse fun _ => environment.nonEmpty? key

/-- A number of seconds of 64 bits; a plus sign may precede it. -/
def seconds? (text : String) : Option Nat :=
  let digits :=
    match text.toList with
    | '+' :: rest => rest
    | cs => cs
  if digits.isEmpty || !digits.all Char.isDigit then none
  else
    let n := digits.foldl (fun n c => n * 10 + (c.toNat - 48)) 0
    if n < Width.count 64 then some n else none

/-- The settings of a profile, whose name is taken in upper case. -/
def ofProfile (environment : Environment) (profile : String) : Settings :=
  let profile := Text.toUpper profile
  { profile := profile
    api := {
      url := (lookup environment profile "API_URL").getD defaultUrl
      key := lookup environment profile "API_KEY"
      timeoutSeconds :=
        ((lookup environment profile "API_TIMEOUT_SECS").bind seconds?).getD
          defaultTimeoutSeconds } }

def ofEnvironment (environment : Environment) : Settings :=
  ofProfile environment ((environment.get? profileVariable).getD "")

/-! ## Output -/

def label (settings : Settings) : String :=
  if settings.profile = "" then "default" else settings.profile

def toJson (settings : Settings) : Json :=
  .object [
    ("profile", .string settings.profile),
    ("api", .object [
      ("url", .string settings.api.url),
      ("key", (settings.api.key.map Json.string).getD .null),
      ("timeout_secs", .ofNat settings.api.timeoutSeconds)])]

def summaryEntry (message : String) : LogEntry := ⟨.info, .settings, message, []⟩

def summary (settings : Settings) : List LogEntry := [
  summaryEntry ("Config loaded (profile: " ++ settings.label ++ "):"),
  summaryEntry ("  api:         url=" ++ settings.api.url ++ ", key=" ++
    (if settings.api.isConfigured then "(set)" else "(none)") ++
    ", timeout=" ++ toString settings.api.timeoutSeconds ++ "s")]

end Settings

end EventRules
