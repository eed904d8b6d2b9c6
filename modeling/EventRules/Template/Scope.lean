import EventRules.Template.Value.Sequence

/-!
# Scope — what names stand for while a template runs

Names are looked up from the innermost frame outwards, then in the context, and last among the
functions that are always there.  A routine keeps the names that it could see where it was defined;
later assignments in the frame of its definition reach it.  Namespaces are the only values that change.

* `Run` — computations that read and change the scope, and may fail;
* `Scope.lookup`, `Run.store` — names and their values;
* `Run.inFrame` — something done in a frame of its own; the number of open frames is limited.
-/

namespace EventRules
namespace Template

abbrev Bindings := List (String × Value)

namespace Bindings

def store (name : String) (value : Value) (bindings : Bindings) : Bindings :=
  (name, value) :: bindings.filter fun b => b.1 != name

/-- Binds a name, keeping the names in order. -/
def insert (name : String) (value : Value) : Bindings → Bindings
  | [] => [(name, value)]
  | (other, v) :: rest =>
      if name < other then (name, value) :: (other, v) :: rest
      else if name = other then (name, value) :: rest
      else (other, v) :: insert name value rest

end Bindings

/-- A loop that is running. -/
structure LoopState where
  /-- What a call of the loop repeats, if it may be called. -/
  again : Option (Target × List Statement)
  depth : Nat
  /-- The loop as a value, unless it only selects items. -/
  current : Option Value
  /-- The arguments that were last asked about for a change. -/
  lastSeen : Option (List Value)

structure Frame where
  locals : Bindings
  loop : Option LoopState
  /-- The names kept for the routines that are defined in this frame. -/
  kept : Option Nat
  /-- The names that the running routine has kept. -/
  base : Option Nat

def Frame.empty : Frame := ⟨[], none, none, none⟩

structure Scope where
  context : Value
  /-- Innermost first. -/
  frames : List Frame
  /-- The frames of the callers. -/
  outerDepth : Nat
  kept : List Bindings
  spaces : List Bindings
  /-- Whether outputs are escaped for markup. -/
  escaping : Bool
  blocks : List (String × List Statement)
  /-- The name of the running block. -/
  block : Option String
  /-- The text that filters of a block start from. -/
  piped : Value

namespace Scope

def ofContext (context : Value) (blocks : List (String × List Statement)) : Scope where
  context := context
  frames := [Frame.empty]
  outerDepth := 0
  kept := []
  spaces := []
  escaping := false
  blocks := blocks
  block := none
  piped := .undefined

def functionNames : List String := ["range", "dict", "namespace", "debug"]

/-- A value with its present entries, if it is a namespace. -/
def refreshed (scope : Scope) : Value → Value
  | .space id entries => .space id (scope.spaces[id]?.getD entries)
  | other => other

def lookupIn (scope : Scope) (name : String) (frame : Frame) : Option Value :=
  frame.locals.lookup name <|>
    (if name = "loop" then frame.loop.bind (·.current) else none) <|>
    (frame.base.bind (scope.kept[·]?)).bind (·.lookup name)

def lookup (scope : Scope) (name : String) : Option Value :=
  (scope.frames.findSome? (scope.lookupIn name) <|>
    scope.context.attribute? name <|>
    if functionNames.contains name then some (Value.function name) else none).map scope.refreshed

/-- The innermost loop. -/
def loop? (scope : Scope) : Option LoopState := scope.frames.findSome? (·.loop)

def depth (scope : Scope) : Nat := scope.outerDepth + scope.frames.length

/-- The bindings of all frames. -/
def visible (scope : Scope) : Bindings :=
  scope.frames.foldr (fun frame bindings =>
    let base := ((frame.base.bind (scope.kept[·]?)).getD []).reverse
    let loop := ((frame.loop.bind (·.current)).map fun value => ("loop", value)).toList
    (base ++ loop ++ frame.locals.reverse).foldl (fun b (name, value) => b.store name value)
      bindings) []

end Scope

abbrev Run := StateT Scope (Except Fault)

namespace Run

def fail {α : Type} (fault : Fault) : Run α := throw fault

/-- A computation whose fault, if it has no line yet, is on a line. -/
def onLine {α : Type} (line : Nat) (run : Run α) : Run α := fun scope =>
  match run scope with
  | .ok result => .ok result
  | .error fault => .error (fault.onLine line)

/-- The greatest number of open frames. -/
def depthLimit : Nat := 500

def tooDeep : Fault := .invalid "recursion limit exceeded"

/-- Changes the innermost frame. -/
def modifyFrame (f : Frame → Frame) : Run Unit :=
  modify fun scope =>
    match scope.frames with
    | [] => scope
    | frame :: rest => { scope with frames := f frame :: rest }

/-- Binds a name in the innermost frame, and for the routines defined there. -/
def store (name : String) (value : Value) : Run Unit := do
  modifyFrame fun frame => { frame with locals := frame.locals.store name value }
  modify fun scope =>
    match scope.frames.head?.bind (·.kept) with
    | some id => { scope with kept := scope.kept.modify id (·.store name value) }
    | none => scope

/-- Something done in a frame of its own. -/
def inFrame {α : Type} (frame : Frame) (run : Run α) : Run α := do
  if depthLimit < (← get).depth then throw tooDeep
  else
    modify fun scope => { scope with frames := frame :: scope.frames }
    let result ← run
    modify fun scope => { scope with frames := scope.frames.tail }
    return result

/-- The names kept for the routines of the innermost frame. -/
def keepNames : Run Nat := do
  let scope ← get
  match scope.frames.head?.bind (·.kept) with
  | some id => return id
  | none =>
      let id := scope.kept.length
      modify fun scope => { scope with kept := scope.kept ++ [scope.visible] }
      modifyFrame fun frame => { frame with kept := some id }
      return id

/-- How many frames the call of a routine counts for, besides those that it opens. -/
def callCost : Nat := 4

/-- The frames in which a routine runs. -/
def routineFrames (base : Nat) : List Frame := [Frame.empty, { Frame.empty with base := some base }]

/-- Something done in the frames of a routine. -/
def inRoutine {α : Type} (base : Nat) (run : Run α) : Run α := do
  let before ← get
  let outer := before.depth + callCost
  if depthLimit < outer + (routineFrames base).length then throw tooDeep
  else
    modify fun scope =>
      { scope with frames := routineFrames base, outerDepth := outer, block := none }
    let result ← run
    modify fun scope =>
      { scope with frames := before.frames, outerDepth := before.outerDepth, block := before.block }
    return result

/-- A new namespace. -/
def newSpace (entries : Bindings) : Run Value := do
  let id := (← get).spaces.length
  modify fun scope => { scope with spaces := scope.spaces ++ [entries] }
  return .space id entries

/-- A text as a value, which need not be escaped again where outputs are escaped. -/
def captured (s : String) : Run Value := do return .string s (← get).escaping

/-- The text that a value adds to the output. -/
def shown (value : Value) : Run String := do
  return if (← get).escaping then value.escaped else value.display

end Run

end Template
end EventRules
