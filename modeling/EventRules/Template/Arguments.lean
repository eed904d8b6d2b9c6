import EventRules.Template.Value.Sequence

/-!
# Arguments — what filters, tests and functions are given

The values of a call stand in a list; arguments that were given by name are its last value.  A reader
takes them from the front and converts each to what is asked for.

* `Arguments.consume` — reads all arguments; none may be left over;
* `Names` — the arguments given by name, of which each has to be used.
-/

namespace EventRules
namespace Template

abbrev Arguments := List Value

/-- Reads arguments from the front. -/
abbrev ArgumentReader := StateT Arguments (Except Fault)

namespace Arguments

/-- Reads all arguments. -/
def consume {α : Type} (reader : ArgumentReader α) (arguments : Arguments) : Except Fault α := do
  let (result, rest) ← reader.run arguments
  if rest.isEmpty then return result else throw (.ofKind .tooManyArguments)

/-- The next argument, if there is one. -/
def next? : ArgumentReader (Option Value) := do
  match ← get with
  | [] => return none
  | value :: rest =>
      set rest
      return some value

/-- The next argument as what a conversion makes of it. -/
def required {α : Type} (convert : Value → Except Fault α) : ArgumentReader α := do
  match ← next? with
  | some value => convert value
  | none => throw (.ofKind .missingArgument)

/-- An argument that may be left out, or be undefined or none. -/
def optional {α : Type} (convert : Value → Except Fault α) : ArgumentReader (Option α) := do
  match ← next? with
  | some value => if value.isAbsent then return none else return some (← convert value)
  | none => return none

/-- All further arguments. -/
def rest : ArgumentReader Arguments := do
  let values ← get
  set ([] : Arguments)
  return values

/-! ## Conversions -/

def itself (value : Value) : Except Fault Value := .ok value

/-- The text of any value. -/
def shown (value : Value) : Except Fault String :=
  match value with
  | .named _ => .error (.invalid "cannot convert kwargs to string")
  | other => .ok other.display

/-- A value that is a text already. -/
def onlyText (value : Value) : Except Fault String :=
  match value with
  | .string s _ => .ok s
  | _ => .error (.invalid "value is not a string")

def onlyBool (value : Value) : Except Fault Bool :=
  match value with
  | .bool b => .ok b
  | other => .error (other.cannotConvert "bool")

/-- A whole number of `bits` bits that is not negative. -/
def natural (bits : Nat) (target : String) (value : Value) : Except Fault Nat :=
  match value.integer? with
  | some n =>
      if Width.fits bits n then .ok n.toNat else .error (value.cannotConvert target)
  | none => .error (value.cannotConvert target)

/-- A whole number of `bits` bits with a sign. -/
def signed (bits : Nat) (target : String) (value : Value) : Except Fault Int :=
  match value.integer? with
  | some n =>
      if Width.fitsSigned bits n then .ok n
      else .error (value.cannotConvert target)
  | none => .error (value.cannotConvert target)

def count (value : Value) : Except Fault Nat := natural 64 "usize" value

end Arguments

/-! ## Arguments given by name -/

/-- The arguments given by name. -/
abbrev Names := List (String × Value)

namespace Arguments

/-- The arguments given by name, if they come next. -/
def names : ArgumentReader Names := do
  match ← get with
  | .named found :: rest =>
      set rest
      return found
  | _ => return []

/-- The positional arguments and those given by name. -/
def split (arguments : Arguments) : Arguments × Names :=
  match arguments.getLast? with
  | some (.named found) => (arguments.dropLast, found)
  | _ => (arguments, [])

end Arguments

namespace Names

/-- An argument of a name, unless it is absent. -/
def get? {α : Type} (names : Names) (name : String) (convert : Value → Except Fault α) :
    Except Fault (Option α) :=
  match names.lookup name with
  | some value => if value.isAbsent then .ok none else (convert value).map some
  | none => .ok none

def flag (names : Names) (name : String) : Except Fault Bool := do
  return (← names.get? name Arguments.onlyBool).getD false

/-- A fault for the first argument whose name is not among the given ones. -/
def allIn (names : Names) (known : List String) : Except Fault Unit :=
  match names.find? fun (name, _) => !known.contains name with
  | some (name, _) =>
      .error (.of .tooManyArguments ("unknown keyword argument '" ++ name ++ "'"))
  | none => .ok ()

end Names

end Template
end EventRules
