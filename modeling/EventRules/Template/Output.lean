import EventRules.Payload.Classify
import EventRules.Template.Leaf

/-!
# Output — templates of payloads

An output template is a value whose texts are templates.  Rendering replaces each text by its value in
a context; a text without a value drops its entry of an object and is null elsewhere.

* `OutputTemplate.check` — whether all texts are right in their notation;
* `OutputTemplate.render` — the payload in a context.
-/

namespace EventRules

/-- Why an output template has no payload. -/
inductive OutputFault where
  | uncompiled (source message : String)
  | unrendered (source message : String)
  | unclassifiable (problem : Unclassifiable)
  deriving DecidableEq

def OutputFault.message : OutputFault → String
  | .uncompiled source message =>
      "template `" ++ source ++ "` does not compile: " ++ message
  | .unrendered source message =>
      "template `" ++ source ++ "` failed to render: " ++ message
  | .unclassifiable problem => problem.message

structure OutputTemplate where
  tree : Json.Ordered
  deriving DecidableEq

namespace OutputTemplate

open Template (Leaf Value)

def ofJson (value : Json) : OutputTemplate := ⟨.ofJson value⟩

/-! ## Texts -/

def checkText (s : String) : Except OutputFault Unit :=
  let leaf := Leaf.ofText s
  match leaf.compile with
  | .ok _ => .ok ()
  | .error fault => .error (.uncompiled s (fault.message leaf.place))

/-- The value of a text in a context, if it has one. -/
def renderText (context : Value) (s : String) : Except OutputFault (Option Json) :=
  let leaf := Leaf.ofText s
  match leaf.compile >>= Leaf.Compiled.eval context with
  | .ok value => .ok value
  | .error fault => .error (.unrendered s (fault.message leaf.place))

/-! ## Values -/

mutual

def checkValue : Json → Except OutputFault Unit
  | .string s => checkText s
  | .array items => checkItems items
  | .object entries => checkEntries entries
  | _ => .ok ()

def checkItems : List Json → Except OutputFault Unit
  | [] => .ok ()
  | item :: rest => do
      checkValue item
      checkItems rest

def checkEntries : List (String × Json) → Except OutputFault Unit
  | [] => .ok ()
  | (_, value) :: rest => do
      checkValue value
      checkEntries rest

end

mutual

def renderValue (context : Value) : Json → Except OutputFault (Option Json)
  | .string s => renderText context s
  | .array items => do return some (.array (← renderItems context items))
  | .object entries => do return some (.object (← renderEntries context entries))
  | other => .ok (some other)

def renderItems (context : Value) : List Json → Except OutputFault (List Json)
  | [] => .ok []
  | item :: rest => do
      let value ← renderValue context item
      return value.getD .null :: (← renderItems context rest)

def renderEntries (context : Value) : List (String × Json) →
    Except OutputFault (List (String × Json))
  | [] => .ok []
  | (name, value) :: rest => do
      let rendered ← renderValue context value
      let others ← renderEntries context rest
      match rendered with
      | some found => return (name, found) :: others
      | none => return others

end

def check (template : OutputTemplate) : Except OutputFault Unit := checkValue template.tree.value

/-- The value of a template before it is classified. -/
def renderTree (template : OutputTemplate) (context : Json) : Except OutputFault Json := do
  return (← renderValue (.ofJson context) template.tree.value).getD .null

def render (template : OutputTemplate) (context : Json) : Except OutputFault Payload := do
  let value ← template.renderTree context
  match Payload.classify value with
  | .ok payload => return payload
  | .error problem => throw (.unclassifiable problem)

end OutputTemplate

end EventRules
