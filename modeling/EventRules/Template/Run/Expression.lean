import EventRules.Template.Filter.Select
import EventRules.Template.Run.Call

/-!
# Expression — the values of expressions

* `Run.binary` — operators on two values;
* `Run.call` — calls, some of which have a meaning of their own: a loop that repeats itself, a block
  that is shown where it is called;
* `Run.expression` — one step of evaluation, given how to evaluate what is nested in it.
-/

namespace EventRules
namespace Template
namespace Run

/-! ## Operators -/

/-- The result of an operator that needs both of its operands. -/
def binary (op : BinaryOp) (a b : Value) : Except Fault Value :=
  match op with
  | .equal => .ok (.bool (a.equals b))
  | .unequal => .ok (.bool (!a.equals b))
  | .less => .ok (.bool (a.order b == .lt))
  | .lessOrEqual => .ok (.bool (a.order b != .gt))
  | .greater => .ok (.bool (a.order b == .gt))
  | .greaterOrEqual => .ok (.bool (a.order b != .lt))
  | .contained => (b.contains a).map .bool
  | .both => .ok (if a.isTrue then b else a)
  | .either => .ok (if a.isTrue then a else b)
  | .add => a.add b
  | .sub => a.sub b
  | .mul => a.mul b
  | .div => a.div b
  | .floorDiv => a.quotient b
  | .remainder => a.remainder b
  | .power => a.power b
  | .join => .ok (.text (a.display ++ b.display))

/-- The part of a value under a name; a part of the undefined value is a fault. -/
def namedPart (value : Value) (name : String) : Except Fault Value :=
  match value.attribute? name with
  | some found => .ok found
  | none => if value.isUndefined then .error (.ofKind .undefinedValue) else .ok .undefined

variable (evaluator : Evaluator)

/-! ## Loops and blocks -/

/-- What a loop tells about itself at an item. -/
def loopFacts (depth index : Nat) (length : Option Nat) (before after : Value) : Bindings :=
  let ofLength (f : Nat → Nat) : Value := length.elim .undefined fun n => .ofNat (f n)
  [("index0", .ofNat index), ("index", .ofNat (index + 1)), ("length", ofLength id),
    ("revindex", ofLength fun n => n - index), ("revindex0", ofLength fun n => n - index - 1),
    ("first", .bool (index == 0)), ("last", .bool after.isUndefined),
    ("depth", .ofNat (depth + 1)), ("depth0", .ofNat depth), ("previtem", before),
    ("nextitem", after)]

/-- Runs a body for each item, numbered from `index` on. -/
def eachItem (target : Target) (body : List Statement) (depth : Nat) (length : Option Nat) :
    (index : Nat) → (before : Value) → List Value → Run String
  | _, _, [] => return ""
  | index, before, item :: rest => do
      let facts := loopFacts depth index length before (rest.headD .undefined)
      modifyFrame fun frame =>
        { frame with loop := frame.loop.map fun state =>
            { state with current := some (.loop facts index length) } }
      assign evaluator target item
      let text ← evaluator.run body
      return text ++ (← eachItem target body depth length (index + 1) item rest)

/-- Runs a body for each item of a value, in a frame of its own. -/
def overItems (target : Target) (body : List Statement) (recursive : Bool) (value : Value) :
    Run String := do
  let items ← (value.items : Except Fault (List Value))
  let depth :=
    match (← get).loop? with
    | some outer => if outer.again.isSome then outer.depth + 1 else 0
    | none => 0
  let again := if recursive then some (target, body) else none
  inFrame { Frame.empty with loop := some ⟨again, depth, some .undefined, none⟩ } <|
    eachItem evaluator target body depth value.length? 0 .undefined items

/-- Repeats the running loop with other items. -/
def repeatLoop (given : Arguments) : Run Value := do
  match given with
  | [value] =>
      match (← get).loop? with
      | none => fail (.invalid "cannot recurse outside of loop")
      | some state =>
          match state.again with
          | none => fail (.invalid "cannot recurse outside of recursive loop")
          | some (target, body) =>
              captured (← overItems evaluator target body true value)
  | _ => fail (.invalid "loop() takes one argument")

/-- The text of a block, which runs in a frame of its own. -/
def showBlock (name : String) : Run String := do
  let before ← get
  match before.blocks.lookup name with
  | none => fail (.of .unknownBlock ("block '" ++ name ++ "' not found"))
  | some body =>
      modify fun scope => { scope with block := some name }
      let text ← inFrame Frame.empty (evaluator.run body)
      modify fun scope => { scope with block := before.block }
      return text

/-- A block of an inherited template, which there is none of. -/
def inherited (given : Arguments) : Run Value := do
  if !given.isEmpty then fail (.invalid "super() takes no arguments")
  else if (← get).block.isNone then fail (.invalid "cannot super outside of block")
  else fail (.invalid "no parent block exists")

/-! ## Calls -/

/-- A call; `further` is given by name besides the arguments. -/
def call (callee : Expr) (args : List Argument) (further : Run Bindings) : Run Value := do
  let given : Run Arguments := do
    let found ← arguments evaluator args
    match ← further with
    | [] => return found
    | more =>
        let (positional, names) := Arguments.split found
        return positional ++
          [.named (more.foldl (fun all (name, value) => Bindings.insert name value all) names)]
  match callee with
  | .var name _ => do
      let given ← given
      if name = "super" then inherited given
      else if name = "loop" then repeatLoop evaluator given
      else
        match (← get).lookup name with
        | some value => callValue evaluator value given
        | none => fail (.of .unknownFunction (name ++ " is unknown"))
  | .attribute (.var "self" _) name _ => do captured (← showBlock evaluator name)
  | .attribute e name _ => do
      let value ← evaluator.value e
      callMethod evaluator value name (← given)
  | e => do
      let value ← evaluator.value e
      callValue evaluator value (← given)

/-! ## Filters and tests -/

def applyFilter (name : String) (given : Arguments) : Except Fault Value :=
  match Filter.find? name with
  | some filter => filter given
  | none => .error (.of .unknownFilter ("filter " ++ name ++ " is unknown"))

def applyTest (name : String) (given : Arguments) : Except Fault Value :=
  match Test.find? Filter.names name with
  | some test => (test given).map .bool
  | none => .error (.of .unknownTest ("test " ++ name ++ " is unknown"))

/-- A part of a slice; what is left out is none. -/
def bound (part : Option Expr) : Run Value :=
  match part with
  | some e => evaluator.value e
  | none => return .none

def both (entry : Expr × Expr) : Run (Value × Value) := do
  let key ← evaluator.value entry.1
  return (key, ← evaluator.value entry.2)

/-- One step of evaluation. -/
def expression : Expr → Run Value
  | .var name _ => do return ((← get).lookup name).getD .undefined
  | .literal l => return .ofLiteral l
  | .negation e => do return .bool !(← evaluator.value e).isTrue
  | .minus e line => do
      let value ← evaluator.value e
      onLine line value.minus
  | .binary .both left right _ => do
      let a ← evaluator.value left
      if a.isTrue then evaluator.value right else return a
  | .binary .either left right _ => do
      let a ← evaluator.value left
      if a.isTrue then return a else evaluator.value right
  | .binary op left right line => do
      let a ← evaluator.value left
      let b ← evaluator.value right
      onLine line (binary op a b)
  | .choice test yes no => do
      if (← evaluator.value test).isTrue then evaluator.value yes
      else
        match no with
        | some e => evaluator.value e
        | none => return .undefined
  | .filter name value args line => do
      let first ←
        match value with
        | some e => evaluator.value e
        | none => pure (← get).piped
      let further ← onLine line (arguments evaluator args)
      onLine line (applyFilter name (first :: further))
  | .test name value args line => do
      let first ← evaluator.value value
      let further ← onLine line (arguments evaluator args)
      onLine line (applyTest name (first :: further))
  | .attribute e name line => do
      let value ← evaluator.value e
      onLine line (namedPart value name)
  | .item e index line => do
      let value ← evaluator.value e
      let key ← evaluator.value index
      onLine line (value.item key)
  | .slice e start stop step line => do
      let value ← evaluator.value e
      let start ← bound evaluator start
      let stop ← bound evaluator stop
      let step ← bound evaluator step
      onLine line (value.slice start stop step)
  | .call callee args line => onLine line (call evaluator callee args (return []))
  | .list items => do return .seq (← items.mapM evaluator.value)
  | .map entries => do return Value.mapOf (← entries.mapM (both evaluator))

end Run
end Template
end EventRules
