import EventRules.Number.Binary64

/-!
# Shortest — the fewest decimal digits that read back

The reals that round to a finite double form an interval around it, whose ends belong to it exactly
when the mantissa is even.  For one digit, two digits, and so on, the two neighbours of the value on
that decimal grid are tested; the first grid with a neighbour inside the interval wins, and of two
neighbours inside it the nearer one.  Seventeen digits always suffice.

* `Finite64.shortest` — the digits and the decimal exponent;
* `DecimalLayout.write` — the text, for a given choice of which exponents are written positionally.
-/

namespace EventRules

/-- The number `significand * 10 ^ exponent`. -/
structure Decimal where
  significand : Nat
  exponent : Int
  deriving DecidableEq, Repr

namespace Finite64

/-- The interval of rounding in quarters of a unit. -/
structure Interval where
  low : Nat
  value : Nat
  high : Nat
  closed : Bool

def interval (x : Finite64) : Interval :=
  let step := 1 <<< x.scale
  let value := 4 * x.units
  let below := if x.mantissa = Finite64.leastNormal ∧ 0 < x.scale then step else 2 * step
  { low := value - below, value := value, high := value + 2 * step, closed := x.mantissa % 2 == 0 }

/-- Whether `num / den` quarters of a unit lie in the interval. -/
def Interval.contains (i : Interval) (num den : Nat) : Bool :=
  if i.closed then i.low * den ≤ num && num ≤ i.high * den
  else i.low * den < num && num < i.high * den

/-- The neighbours of the value on the grid of multiples of `10 ^ exponent`, if one of them reads
back. -/
def onGrid? (i : Interval) (exponent : Int) : Option Nat :=
  -- one step of the grid is `num / den` quarters of a unit
  let num := 4 * unitsPerOne * (if 0 ≤ exponent then Nat.pow 10 exponent.toNat else 1)
  let den := if 0 ≤ exponent then 1 else Nat.pow 10 (-exponent).toNat
  let lower := i.value * den / num
  let upper := lower + 1
  let lowerFits := lower != 0 && i.contains (lower * num) den
  let upperFits := i.contains (upper * num) den
  let toLower := i.value * den - lower * num
  let toUpper := upper * num - i.value * den
  if lowerFits && upperFits then
    if toLower < toUpper then some lower
    else if toUpper < toLower then some upper
    else if lower % 2 = 0 then some lower else some upper
  else if lowerFits then some lower
  else if upperFits then some upper
  else none

/-- The least `k` with `x < 10 ^ k`. -/
def decimalMagnitude (x : Finite64) : Int :=
  let binary : Int := (x.units.log2 : Int) - 1074
  let guess : Int := (binary * 30103).fdiv 100000
  let fits (k : Int) : Bool :=
    if 0 ≤ k then x.units < unitsPerOne * Nat.pow 10 k.toNat
    else x.units * Nat.pow 10 (-k).toNat < unitsPerOne
  ([guess - 1, guess, guess + 1, guess + 2].find? fits).getD (guess + 3)

/-- Trailing zeros of the significand moved into the exponent. -/
def dropZeros : Nat → Decimal → Decimal
  | 0, d => d
  | n + 1, d =>
      if d.significand % 10 = 0 then dropZeros n ⟨d.significand / 10, d.exponent + 1⟩ else d

/-- The shortest decimal that rounds to `x`. -/
def shortest (x : Finite64) : Decimal :=
  if x.isZero then ⟨0, 0⟩
  else
    let i := x.interval
    let k := x.decimalMagnitude
    let found := (List.range 17).findSome? fun n =>
      let exponent := k - (n + 1 : Nat)
      (onGrid? i exponent).map fun digits => Decimal.mk digits exponent
    dropZeros 20 (found.getD ⟨0, 0⟩)

end Finite64

/-- Which decimal exponents are written positionally; the others are written with an `e`, and
positive ones perhaps with a sign. -/
structure DecimalLayout where
  positional : Int → Bool
  plusSign : Bool

namespace DecimalLayout

/-- Digits with the decimal point after the first `point` of them, zeros filled in where the point
lies outside; at least one digit follows the point. -/
def positionalText (digits : List Char) (point : Int) : List Char :=
  if point ≤ 0 then
    ['0', '.'] ++ List.replicate (-point).toNat '0' ++ digits
  else
    let n := point.toNat
    let fraction := digits.drop n
    digits.take n ++ List.replicate (n - digits.length) '0' ++ '.' ::
      (if fraction.isEmpty then ['0'] else fraction)

def scientificText (plusSign : Bool) (digits : List Char) (exponent : Int) : List Char :=
  let mantissa :=
    match digits with
    | [] => []
    | [d] => [d]
    | d :: rest => d :: '.' :: rest
  let sign := if exponent < 0 then ['-'] else if plusSign then ['+'] else []
  mantissa ++ 'e' :: sign ++ Nat.toDigits 10 exponent.natAbs

def write (layout : DecimalLayout) (x : Finite64) : String :=
  let d := x.shortest
  let digits := Nat.toDigits 10 d.significand
  let point : Int := digits.length + d.exponent
  let body :=
    if x.isZero then ['0', '.', '0']
    else if layout.positional (point - 1) then positionalText digits point
    else scientificText layout.plusSign digits (point - 1)
  String.ofList (if x.negative then '-' :: body else body)

/-- Always positional. -/
def plain : DecimalLayout := ⟨fun _ => true, true⟩

end DecimalLayout

end EventRules
