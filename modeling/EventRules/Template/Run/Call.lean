import EventRules.Template.Function
import EventRules.Template.Scope

/-!
# Call — arguments and calls

How to run what is nested is given by an `Evaluator`; the functions here say what is done with it.

* `Evaluator` — how expressions are evaluated and statements run;
* `Run.arguments` — the arguments of a call;
* `Run.callValue`, `Run.callMethod` — calls of values and of their methods;
* `Run.callRoutine` — binds the parameters of a routine and runs its body.
-/

namespace EventRules
namespace Template

structure Evaluator where
  value : Expr → Run Value
  run : List Statement → Run String

namespace Run

variable (evaluator : Evaluator)

/-! ## Arguments -/

/-- The entries of a value that stands for arguments given by name. -/
def namesOf (value : Value) : Except Fault Bindings :=
  match value.kind, value.entries? with
  | .map, some entries =>
      .ok (entries.filterMap fun (key, v) => key.string?.map fun name => (name, v))
  | kind, _ =>
      .error
        (.invalid ("attempted to apply keyword arguments from non map (got " ++ kind.text ++ ")"))

/-- Adds one argument to those found so far. -/
def addArgument (found : Arguments × Option Bindings) :
    Argument → Run (Arguments × Option Bindings)
  | .positional e => do return (found.1 ++ [← evaluator.value e], found.2)
  | .named name e => do
      let value ← evaluator.value e
      return (found.1, some (Bindings.insert name value (found.2.getD [])))
  | .spread e => do
      let items ← ((← evaluator.value e).items : Except Fault (List Value))
      return (found.1 ++ items, found.2)
  | .spreadNamed e => do
      let names ← (namesOf (← evaluator.value e) : Except Fault Bindings)
      return (found.1,
        some (names.foldl (fun all (name, value) => Bindings.insert name value all) (found.2.getD [])))

/-- The arguments of a call, those given by name being its last value. -/
def arguments (args : List Argument) : Run Arguments := do
  let (positional, names) ← args.foldlM (addArgument evaluator) ([], none)
  return positional ++ (names.map Value.named).toList

/-! ## Assignments -/

/-- Binds the names of a target to the parts of a value. -/
def assign : Target → Value → Run Unit
  | .name name, value => store name value
  | .attribute e name line, value => do
      match ← evaluator.value e with
      | .space id _ =>
          modify fun scope =>
            { scope with spaces := scope.spaces.modify id (Bindings.insert name value) }
      | other =>
          onLine line (fail (.invalid ("can only assign to namespaces, not " ++ other.kind.text)))
  | .tuple parts, value => do
      let items ←
        match value.kind, value.items? with
        | .sequence, some items | .iterable, some items | .map, some items => pure items
        | _, _ => fail (.of .cannotUnpack "value is not iterable")
      if items.length = parts.length then assignParts parts items
      else
        fail (.of .cannotUnpack ("sequence of wrong length (expected " ++ toString parts.length ++
          ", got " ++ toString items.length ++ ")"))
where
  assignParts : List Target → List Value → Run Unit
    | part :: parts, item :: items => do
        assign part item
        assignParts parts items
    | _, _ => return ()

/-! ## Routines -/

/-- The value of a parameter, and the names that it leaves to be used. -/
def parameterValue (position : Nat) (name : String) (positional : Arguments) (names : Bindings) :
    Except Fault Value :=
  match positional[position]?, names.lookup name with
  | some _, some _ => .error (.of .tooManyArguments ("duplicate argument `" ++ name ++ "`"))
  | some value, none => .ok value
  | none, some value => .ok value
  | none, none => .ok .undefined

/-- The values of the parameters, and the caller if the routine uses it. -/
def parameterValues (routine : Routine) (given : Arguments) :
    Except Fault (List Value × Option Value) := do
  let (positional, names) := Arguments.split given
  let params := routine.parameters.map (·.1)
  if params.length < positional.length then throw (.ofKind .tooManyArguments)
  else
    let values ← params.zipIdx.mapM fun (name, i) => parameterValue i name positional names
    let known := if routine.usesCaller then "caller" :: params else params
    match names.find? fun (name, _) => !known.contains name with
    | some (name, _) =>
        throw (.of .tooManyArguments ("unknown keyword argument `" ++ name ++ "`"))
    | none =>
        return (values,
          if routine.usesCaller then some ((names.lookup "caller").getD .undefined) else none)

/-- Binds parameters from the last to the first; a default stands in for the undefined value. -/
def bindParameters : List ((String × Option Expr) × Value) → Run Unit
  | [] => return ()
  | ((name, default), value) :: rest => do
      bindParameters rest
      let value ←
        match value, default with
        | .undefined, some e => evaluator.value e
        | other, _ => pure other
      store name value

/-- Runs a routine with the names that it has kept. -/
def callRoutine (routine : Routine) (kept : Nat) (given : Arguments) : Run Value := do
  let (values, caller) ← (parameterValues routine given : Except Fault _)
  let text ← inRoutine kept do
    match caller with
    | some value => store "caller" value
    | none => pure ()
    bindParameters evaluator (routine.parameters.zip values)
    evaluator.run routine.body
  captured text

/-! ## Calls -/

def callFunction (name : String) (given : Arguments) : Run Value := do
  if name = "range" then Function.range given
  else if name = "dict" then Function.dict given
  else if name = "namespace" then newSpace (← (Function.entriesOf given : Except Fault _))
  else return Function.shown given

def callValue (value : Value) (given : Arguments) : Run Value :=
  match value with
  | .function name => callFunction name given
  | .routine routine kept => callRoutine evaluator routine kept given
  | .loop _ _ _ => fail (.invalid "loop cannot be called if reassigned to different variable")
  | .undefined | .none | .bool _ | .integer _ | .float _ | .string _ _ =>
      fail (.invalid ("value of type " ++ value.kind.text ++ " is not callable"))
  | _ => fail (.invalid "object is not callable")

/-- Whether the arguments differ from those that the loop was last asked about. -/
def changed (given : Arguments) : Run Bool := do
  let seen := ((← get).loop?.bind (·.lastSeen)).map Value.seq
  if (seen.map (Value.equals (.seq given))) = some true then return false
  else
    modify fun scope =>
      { scope with frames := mark scope.frames }
    return true
where
  mark : List Frame → List Frame
    | [] => []
    | frame :: rest =>
        match frame.loop with
        | some state => { frame with loop := some { state with lastSeen := some given } } :: rest
        | none => frame :: mark rest

/-- The argument whose turn it is. -/
def cycled (index : Nat) (given : Arguments) : Value :=
  given[index % given.length]?.getD .undefined

def callMethod (value : Value) (name : String) (given : Arguments) : Run Value :=
  match value with
  | .loop _ index _ =>
      if name = "cycle" then return cycled index given
      else if name = "changed" then return .bool (← changed given)
      else fail (.of .unknownMethod ("loop object has no method named " ++ name))
  | other =>
      match other.attribute? name with
      | some method => callValue evaluator method given
      | none =>
          fail (.of .unknownMethod (other.kind.text ++ " has no method named " ++ name))

end Run

end Template
end EventRules
