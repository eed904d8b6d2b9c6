import EventRules.Template.Run.Expression

/-!
# Statement — the text of statements

There is but one template, so that one that is included, extended or imported is never found.

* `Run.statement` — one step of running, given how to run what is nested in it.
-/

namespace EventRules
namespace Template
namespace Run

variable (evaluator : Evaluator)

/-! ## Other templates -/

def nameless : Fault := .invalid "template name was not a string"

def notFound (detail : String) : Fault := .of .templateNotFound detail

/-- A template or the first of several templates, none of which is found. -/
def embedded (source : Value) (mayFail : Bool) : Except Fault Unit := do
  let choices :=
    match source with
    | .string _ _ | .undefined | .none | .bool _ | .integer _ | .float _ => [source]
    | other => other.items?.getD []
  let names ← choices.mapM fun choice =>
    match choice.string? with
    | some name => .ok name
    | none => .error nameless
  if mayFail then return ()
  else
    match names with
    | [] => return ()
    | [name] => throw (notFound ("tried to include non-existing template " ++ Text.quoted name))
    | _ =>
        throw (notFound ("tried to include one of multiple templates, none of which existed " ++
          (Value.seq choices).display))

def inherit (source : Value) : Except Fault Unit :=
  match source.string? with
  | some name => .error (notFound ("template " ++ Text.quoted name ++ " does not exist"))
  | none => .error nameless

/-! ## Blocks -/

/-- How a block of escaping is asked for. -/
def escapingOf (mode : Value) : Except Fault Bool :=
  match mode with
  | .string "html" _ => .ok true
  | .string "none" _ => .ok false
  | .string _ _ => .error (.invalid "invalid value to autoescape tag")
  | other => .ok (other.equals (.bool true))

/-- The items for which a condition holds, with the target bound to each in turn. -/
def passing (target : Target) (condition : Expr) (value : Value) : Run (List Value) := do
  let items ← (value.items : Except Fault (List Value))
  inFrame { Frame.empty with loop := some ⟨none, 0, none, none⟩ } <|
    items.filterM fun item => do
      assign evaluator target item
      return (← evaluator.value condition).isTrue

/-- What filters make of a text. -/
def filtered (filter : Expr) (text : Value) : Run Value := do
  let before := (← get).piped
  modify fun scope => { scope with piped := text }
  let value ← evaluator.value filter
  modify fun scope => { scope with piped := before }
  return value

/-- Binds each target in turn, so that later ones see the earlier. -/
def assignAll (assignments : List (Target × Expr)) : Run Unit :=
  assignments.forM fun (target, e) => do assign evaluator target (← evaluator.value e)

/-- The value of a routine that keeps the names it can see. -/
def routineValue (routine : Routine) : Run Value := do
  return .routine routine (← keepNames)

/-- One step of running. -/
def statement : Statement → Run String
  | .text s => return s
  | .output e _ => do shown (← evaluator.value e)
  | .loop target items only recursive body otherwise line => do
      let value ← evaluator.value items
      let value ←
        match only with
        | some condition => do
            pure (.seq (← onLine line (passing evaluator target condition value)))
        | none => pure value
      let text ← onLine line (overItems evaluator target body recursive value)
      if (value.items?.getD []).isEmpty then evaluator.run otherwise else return text
  | .choice test yes no => do
      if (← evaluator.value test).isTrue then evaluator.run yes else evaluator.run no
  | .scope assignments body =>
      inFrame Frame.empty do
        assignAll evaluator assignments
        evaluator.run body
  | .assign target e line => do
      let value ← evaluator.value e
      onLine line (assign evaluator target value)
      return ""
  | .assignText target filter body line => do
      let text ← captured (← evaluator.run body)
      let value ←
        match filter with
        | some e => filtered evaluator e text
        | none => pure text
      onLine line (assign evaluator target value)
      return ""
  | .escaping mode body line => do
      let mode ← evaluator.value mode
      let escaping ← onLine line (escapingOf mode)
      let before := (← get).escaping
      modify fun scope => { scope with escaping := escaping }
      let text ← evaluator.run body
      modify fun scope => { scope with escaping := before }
      return text
  | .filtered filter body => do
      let text ← captured (← evaluator.run body)
      shown (← filtered evaluator filter text)
  | .block name _ => showBlock evaluator name
  | .inherit source line => do
      let source ← evaluator.value source
      onLine line (inherit source)
      return ""
  | .embed source mayFail line => do
      let source ← evaluator.value source
      onLine line (embedded source mayFail)
      return ""
  | .load source line => do
      let source ← inFrame Frame.empty (evaluator.value source)
      onLine line (embedded source false)
      return ""
  | .define routine => do
      store routine.name (← routineValue routine)
      return ""
  | .callWith callee args caller line => do
      let value ← onLine line <|
        call evaluator callee args do return [("caller", ← routineValue caller)]
      shown value
  | .perform e => do
      let _ ← evaluator.value e
      return ""

end Run

/-! ## Whole sources -/

/-- Evaluation that goes down at most so many levels. -/
def evaluator : (levels : Nat) → Evaluator
  | 0 => ⟨fun _ => Run.fail Run.tooDeep, fun _ => Run.fail Run.tooDeep⟩
  | levels + 1 =>
      let inner := evaluator levels
      ⟨Run.expression inner, fun statements => do
        return String.join (← statements.mapM (Run.statement inner))⟩

/-- Levels enough for a source of some length: each open frame goes down at most through the source,
and every character opens at most a few levels. -/
def levelsFor (source : String) : Nat := (source.length + 8) * 4 * (Run.depthLimit + 1)

/-- The value of an expression in a context. -/
def Expr.eval (e : Expr) (levels : Nat) (context : Value) : Except Fault Value :=
  ((evaluator levels).value e |>.run (Scope.ofContext context [])).map (·.1)

/-- The text of a template in a context. -/
def Document.eval (document : Document) (levels : Nat) (context : Value) : Except Fault String :=
  ((evaluator levels).run document.statements
    |>.run (Scope.ofContext context document.blocks)).map (·.1)

end Template
end EventRules
