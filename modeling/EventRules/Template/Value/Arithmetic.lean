import EventRules.Template.Value.Text

/-!
# Arithmetic — operators on values

Whole numbers are computed exactly within their range; an operator whose result leaves it, or that has
no result, is a fault.  If one operand is a float, both are taken as floats.  Division always gives a
float; the whole quotient and the remainder are those of division with a remainder that is not
negative.

* `Value.add`, `Value.sub`, `Value.mul`, `Value.div`, `Value.quotient`, `Value.remainder`,
  `Value.power`, `Value.minus`.
-/

namespace EventRules
namespace Template
namespace Value

/-- The operands have no numbers that the operator could work on. -/
def unsupported (sign : String) (a b : Value) : Fault :=
  .invalid ("tried to use " ++ sign ++ " operator on unsupported types " ++ a.kind.text ++ " and "
    ++ b.kind.text)

/-- The operator has no result for these operands. -/
def impossible (sign : String) (a b : Value) : Fault :=
  .invalid ("unable to calculate " ++ a.display ++ " " ++ sign ++ " " ++ b.display)

/-- An operator given by what it does to whole numbers and to floats. -/
def arithmetic (sign : String) (whole : Int → Int → Option Int)
    (real : Binary64 → Binary64 → Binary64) (a b : Value) : Except Fault Value :=
  match numbers? true a b with
  | some (.whole m n) =>
      match (whole m n).filter inRange with
      | some result => .ok (.integer result)
      | Option.none => .error (impossible sign a b)
  | some (.real x y) => .ok (.float (real x y))
  | Option.none => .error (unsupported sign a b)

def isSequence (value : Value) : Bool := value.kind == .sequence || value.kind == .iterable

/-- Several sequences one after the other. -/
def append (a b : Value) : Value :=
  .iterable (a.length?.isSome && b.length?.isSome) (a.items?.getD [] ++ b.items?.getD [])

def add (a b : Value) : Except Fault Value :=
  if a.isSequence && b.isSequence then .ok (append a b)
  else
    match a, b with
    | .string s _, .string t _ => .ok (text (s ++ t))
    | _, _ => arithmetic "+" (fun m n => some (m + n)) Binary64.add a b

def sub (a b : Value) : Except Fault Value :=
  match a, b with
  | .string _ _, .string _ _ => .error (unsupported "-" a b)
  | _, _ => arithmetic "-" (fun m n => some (m - n)) Binary64.sub a b

/-- How often something is to be repeated. -/
def times? (value : Value) : Option Nat :=
  (value.integer?.filter (Width.fits 64)).map Int.toNat

def repeatText (s : String) (count : Value) : Except Fault Value :=
  match count.times? with
  | some n => .ok (text (String.join (List.replicate n s)))
  | Option.none => .error (.invalid "strings can only be multiplied with integers")

def repeatItems (sequence count : Value) : Except Fault Value :=
  match count.times? with
  | some n => .ok (.iterable true (List.replicate n (sequence.items?.getD [])).flatten)
  | Option.none => .error (.invalid "sequences and iterables can only be multiplied with integers")

def mul (a b : Value) : Except Fault Value :=
  match a, b with
  | .string s _, _ => repeatText s b
  | _, .string s _ => repeatText s a
  | _, _ =>
      if a.isSequence then repeatItems a b
      else if b.isSequence then repeatItems b a
      else arithmetic "*" (fun m n => some (m * n)) Binary64.mul a b

def div (a b : Value) : Except Fault Value :=
  match a.real? true, b.real? true with
  | some x, some y => .ok (.float (x.div y))
  | _, _ => .error (unsupported "/" a b)

/-- The whole quotient of floats that leaves a remainder that is not negative. -/
def realQuotient (x y : Binary64) : Binary64 :=
  let q := (x.div y).truncate
  let one := Binary64.ofNat 1
  if (x.remainder y).compare? (Binary64.ofNat 0) = some .lt then
    if y.compare? (Binary64.ofNat 0) = some .gt then q.sub one else q.add one
  else q

def quotient (a b : Value) : Except Fault Value :=
  match a, b with
  | .string _ _, .string _ _ => .error (unsupported "//" a b)
  | _, _ =>
      arithmetic "//" (fun m n => if n = 0 then Option.none else some (m / n)) realQuotient a b

def remainder (a b : Value) : Except Fault Value :=
  match a, b with
  | .string _ _, .string _ _ => .error (unsupported "%" a b)
  | _, _ =>
      arithmetic "%" (fun m n => if n = 0 then Option.none else some (m % n)) Binary64.remainder a b

/-- A power with an exponent that is not negative; one that is surely out of range is not computed. -/
def wholePower (m n : Int) : Option Int :=
  if !Width.fits 32 n then Option.none
  else if m.natAbs ≤ 1 then some (if n = 0 then 1 else if m = -1 ∧ n % 2 = 0 then 1 else m)
  else if 128 ≤ n then Option.none
  else some (Int.pow m n.toNat)

def power (a b : Value) : Except Fault Value :=
  match a, b with
  | .string _ _, .string _ _ => .error (unsupported "**" a b)
  | _, _ => arithmetic "**" wholePower Binary64.power a b

/-- The value with the opposite sign. -/
def minus : Value → Except Fault Value
  | .float x => .ok (.float x.negate)
  | .integer n =>
      if n = Width.count 127 then .ok (.integer n)
      else if !inRange n then .error (.ofKind .invalidOperation)
      else if inRange (-n) then .ok (.integer (-n))
      else .error (.invalid "overflow")
  | _ => .error (.ofKind .invalidOperation)

end Value
end Template
end EventRules
