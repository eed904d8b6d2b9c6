import EventRules.Template.Filter.Text

/-!
# Number — filters that make numbers and booleans

* `Filter.numbers` — the filters by name;
* `Filter.toWhole`, `Filter.toReal` — the numbers that values and texts stand for.
-/

namespace EventRules
namespace Template
namespace Filter

open Arguments

def absolute : Value → Except Fault Value
  | .integer n =>
      if n = Width.leastSigned 128 then .error (.invalid "overflow on abs") else .ok (.integer n.natAbs)
  | .float x => .ok (.float x.abs)
  | _ => .error (.invalid "cannot get absolute value")

/-- The whole number that a text writes, if it is in range. -/
def wholeNumeral? (s : String) : Option Int :=
  let (negative, digits) := Numeral.splitSign s.toList
  if digits.isEmpty || !digits.all Char.isDigit then none
  else
    let magnitude : Int := Numeral.natOfDigits digits
    some (if negative then -magnitude else magnitude) |>.filter Value.inRange

/-- A float without its fraction, brought into the range of whole numbers. -/
def wholeOf : Binary64 → Int
  | .finite x => Width.clampSigned 128 x.truncate
  | .infinity negative => if negative then Width.leastSigned 128 else Width.greatestSigned 128
  | .nan => 0

def numeral (s : String) : Except Fault Binary64 :=
  match Numeral.toBinary64? s with
  | some x => .ok x
  | none =>
      .error (.invalid
        (if s = "" then "cannot parse float from empty string" else "invalid float literal"))

def toWhole (value : Value) : Except Fault Value :=
  match value with
  | .undefined | .none => .ok (.integer 0)
  | .bool b => .ok (.integer (if b then 1 else 0))
  | .integer n => .ok (.integer n)
  | .float x => .ok (.integer (wholeOf x))
  | .string s _ =>
      match wholeNumeral? s with
      | some n => .ok (.integer n)
      | none => do return .integer (wholeOf (← numeral s))
  | other => .error (other.cannotConvert "integer")

def toReal (value : Value) : Except Fault Value :=
  match value with
  | .undefined | .none => .ok (.float (Binary64.ofNat 0))
  | .bool b => .ok (.float (Binary64.ofNat (if b then 1 else 0)))
  | .integer n => .ok (.float (Binary64.ofInt n))
  | .float x => .ok (.float x)
  | .string s _ => do return .float (← numeral s)
  | other => .error (other.cannotConvert "float")

/-- Rounds a float to so many places behind the point, or before it if there are fewer than none. -/
def rounded (places : Int) (x : Binary64) : Binary64 :=
  if places = 0 then x.round
  else
    let power := Binary64.ofDecimal false 1 places.natAbs
    let factor := if 0 < places then power else (Binary64.ofNat 1).div power
    (factor.mul x).round.div factor

def roundFilter : Filter := consume do
  let value ← required itself
  let places ← optional (signed 32 "i32")
  match value with
  | .integer n => return .integer n
  | .float x => return .float (rounded (places.getD 0) x)
  | other => throw (.invalid ("cannot round value (" ++ other.kind.text ++ ")"))

/-- A filter that takes nothing but a value. -/
def ofValue (f : Value → Except Fault Value) : Filter :=
  consume do f (← required itself)

def numbers : List (String × Filter) := [
  ("abs", ofValue absolute),
  ("int", ofValue toWhole),
  ("float", ofValue toReal),
  ("round", roundFilter),
  ("bool", ofValue fun value => .ok (.bool value.isTrue))]

end Filter
end Template
end EventRules
