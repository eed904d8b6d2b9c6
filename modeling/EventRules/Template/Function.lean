import EventRules.Template.Arguments

/-!
# Function — the functions that are always there

* `Function.range`, `Function.dict`, `Function.shown` — functions of their arguments;
* `Function.entriesOf` — what a namespace starts with.
-/

namespace EventRules
namespace Template
namespace Function

open Arguments

/-- The greatest number of items that a range may have. -/
def rangeLimit : Nat := 100000

def range : Arguments → Except Fault Value := consume do
  let first ← required (natural 32 "u32")
  let second ← optional (natural 32 "u32")
  let step ← optional (natural 32 "u32")
  let (start, stop) :=
    match second with
    | some stop => (first, stop)
    | none => (0, first)
  if step = some 0 then throw (.invalid "cannot create range with step of 0")
  else
    let step := step.getD 1
    let size := (stop - start + step - 1) / step
    if rangeLimit < size then throw (.invalid "range has too many elements")
    else return .iterable true ((List.range size).map fun i => .ofNat (start + i * step))

/-- A map from another one and arguments given by name. -/
def dict : Arguments → Except Fault Value := consume do
  let base ←
    match ← get with
    | .named _ :: _ => pure none
    | _ => next?
  let names ← names
  let entries ←
    match base with
    | none | some .undefined | some .none => pure []
    | some value =>
        match value.entries? with
        | some found => pure found
        | none => throw (.ofKind .invalidOperation)
  return Value.mapOf (entries ++ names.map fun (name, value) => (.text name, value))

/-- Values with one item per line. -/
def shown (arguments : Arguments) : Value :=
  match arguments with
  | [value] => .text value.indented
  | values => .text (Value.seq values).indented

/-- What a namespace starts with: the entries of a map whose keys are texts. -/
def entriesOf : Arguments → Except Fault (List (String × Value)) := consume do
  match ← optional itself with
  | none => return []
  | some value =>
      match value.entries? with
      | some entries =>
          entries.mapM fun (key, value) =>
            match key.string? with
            | some name => pure (name, value)
            | none => throw (.ofKind .invalidOperation)
      | none =>
          throw (.invalid ("expected object or keyword arguments, got " ++ value.kind.text))

end Function
end Template
end EventRules
