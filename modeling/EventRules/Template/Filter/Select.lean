import EventRules.Template.Test

/-!
# Select — all filters, with those that apply tests and filters to every item

* `Filter.find?` — the filter of a name.
-/

namespace EventRules
namespace Template
namespace Filter

open Arguments

def selecting : List String := ["select", "reject", "selectattr", "rejectattr", "map"]

def simple : List (String × Filter) := texts ++ numbers ++ sequences

/-- The names of all filters. -/
def names : List String := selecting ++ simple.map (·.1)

/-- A test by name, or whether a value counts as true. -/
def condition (name : Option String) (further : Arguments) : Except Fault (Value → Except Fault Bool) :=
  match name with
  | none => .ok fun value => .ok value.isTrue
  | some name =>
      match Test.find? names name with
      | some test => .ok fun value => test (value :: further)
      | none => .error (.ofKind .unknownTest)

/-- The items that meet a condition, or those that do not. -/
def selected (wanted : Bool) (path : Option String) (name : Option String) (further : Arguments)
    (value : Value) : Except Fault Value := do
  let holds ← condition name further
  let kept ← (← value.items).filterM fun item => do
    let tested ←
      match path with
      | some path => item.path path
      | none => pure item
    return (← holds tested) == wanted
  return .seq kept

def selectFilter (wanted : Bool) : Filter := consume do
  let value ← required itself
  let name ← optional shown
  selected wanted none name (← rest) value

def selectByPath (wanted : Bool) : Filter := consume do
  let value ← required itself
  let path ← required shown
  let name ← optional shown
  selected wanted (some path) name (← rest) value

/-- The part of every item that a path or a key leads to, or a default. -/
def mapParts (key : Value) (names : Names) (value : Value) : Except Fault Value := do
  let default := (names.lookup "default").getD .undefined
  let found ← (← value.items).mapM fun item =>
    match (match key.string? with
      | some path => item.path path
      | none => item.item key) with
    | .ok part => .ok (if part.isUndefined then default else part)
    | .error fault => if default.isUndefined then .error fault else .ok default
  names.allIn ["attribute", "default"]
  return .seq found

/-- What a filter, found by name, makes of every item. -/
def mapFilter (find? : String → Option Filter) : Filter := fun arguments =>
  match arguments with
  | [] => .error (.ofKind .missingArgument)
  | value :: further => do
      let (positional, names) := Arguments.split further
      match ← names.get? "attribute" itself, positional with
      | some key, [] => mapParts key names value
      | some _, _ :: _ => throw (.ofKind .tooManyArguments)
      | none, [] => throw (.invalid "filter name is required")
      | none, .string name _ :: others =>
          match find? name with
          | some filter =>
              return .seq (← (← value.items).mapM fun item => filter (item :: others))
          | none => throw (.ofKind .unknownFilter)
      | none, _ => throw (.invalid "filter name must be a string")

/-- The filter of a name, where maps of maps go down at most so many levels. -/
def findWithin : (levels : Nat) → String → Option Filter
  | 0, name => simple.lookup name
  | levels + 1, name =>
      if name = "select" then some (selectFilter true)
      else if name = "reject" then some (selectFilter false)
      else if name = "selectattr" then some (selectByPath true)
      else if name = "rejectattr" then some (selectByPath false)
      else if name = "map" then some (mapFilter (findWithin levels))
      else simple.lookup name

/-- The filter of a name; every map uses up one of the arguments. -/
def find? (name : String) : Option Filter :=
  if names.contains name then
    some fun arguments =>
      match findWithin (arguments.length + 1) name with
      | some filter => filter arguments
      | none => .error (.ofKind .unknownFilter)
  else none

end Filter
end Template
end EventRules
