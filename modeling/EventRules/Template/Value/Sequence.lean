import EventRules.Template.Value.Arithmetic
import EventRules.Text.Basic

/-!
# Sequence — membership, slices and reversal

* `Value.contains` — whether a container has a member;
* `Value.slice` — the part between two places, in steps of either direction;
* `Value.reversed` — the items from last to first.
-/

namespace EventRules
namespace Template
namespace Value

/-- Whether a container has a member: a text inside of a text, a key of a map, an item. -/
def contains (container member : Value) : Except Fault Bool :=
  match container with
  | .undefined => .ok false
  | .string s _ => .ok (Text.contains s member.display)
  | .none | .bool _ | .integer _ | .float _ =>
      .error (.invalid "cannot perform a containment check on this value")
  | .function _ | .routine _ _ => .ok false
  | other =>
      match other.entries? with
      | some entries => .ok (lookup member entries).isSome
      | Option.none => .ok ((other.items?.getD []).any fun item => equals item member)

/-- A conversion that a value does not have. -/
def cannotConvert (value : Value) (target : String) : Fault :=
  .invalid ("cannot convert " ++ value.kind.text ++ " to " ++ target)

/-! ## Slices -/

/-- One bound of a slice, if it is given. -/
def bound? (value : Value) : Except Fault (Option Int) :=
  match value with
  | .none => .ok Option.none
  | other =>
      match other.index? with
      | some n => .ok (some n)
      | Option.none => .error (other.cannotConvert "i64")

/-- A place that may count from the end, brought between two bounds. -/
def place (length least greatest : Int) (index : Int) : Int :=
  max least (min greatest (if index < 0 then index + length else index))

/-- Every `step`-th item. -/
def everyNth {α : Type} (step : Nat) (items : List α) : List α :=
  (items.zipIdx.filter fun (_, i) => i % step = 0).map (·.1)

/-- The items between two places in steps that are not zero. -/
def sliceItems {α : Type} (items : List α) (start stop : Option Int) (step : Int) : List α :=
  let length : Int := items.length
  if 0 < step then
    let first := (place length 0 length (start.getD 0)).toNat
    let last := (place length 0 length (stop.getD length)).toNat
    everyNth step.toNat ((items.take last).drop first)
  else
    let first := (start.map (place length (-1) (length - 1))).getD (length - 1)
    let last := (stop.map (place length (-1) (length - 1))).getD (-1)
    everyNth step.natAbs ((items.take (first + 1).toNat).drop (last + 1).toNat).reverse

def slice (value start stop step : Value) : Except Fault Value := do
  let start ← start.bound?
  let stop ← stop.bound?
  let step := (← step.bound?).getD 1
  if step = 0 then .error (.invalid "cannot slice by step size of 0")
  else
    match value with
    | .undefined | .none => .ok (.seq [])
    | .string s _ => .ok (text (String.ofList (sliceItems s.toList start stop step)))
    | other =>
        if other.isSequence then
          .ok (.iterable true (sliceItems (other.items?.getD []) start stop step))
        else .error (.invalid ("value of type " ++ other.kind.text ++ " cannot be sliced"))

/-! ## Reversal -/

def reversed (value : Value) : Except Fault Value :=
  match value with
  | .undefined => .ok .undefined
  | .none => .ok .none
  | .string s _ => .ok (text (String.ofList s.toList.reverse))
  | .bool _ | .integer _ | .float _ | .function _ | .routine _ _ =>
      .error (.invalid ("cannot reverse values of type " ++ value.kind.text))
  | other => .ok (.iterable true (other.items?.getD []).reverse)

end Value
end Template
end EventRules
