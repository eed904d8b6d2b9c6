/-!
# Binary64 — double-precision numbers with exact rounding

A finite number is a sign and a whole number of *units*, one unit being `2 ^ -1074`.  The number of
units is kept as `mantissa * 2 ^ scale` with a mantissa below `2 ^ 53`, so that each value has one
form.  Every operation computes its exact result as a ratio of natural numbers and rounds that ratio
once, to the nearest representable value, a tie going to the even mantissa.

* `Binary64.ofRatio` — the one rounding step;
* `Binary64.add`, `mul`, `div`, `remainder` — exact results, rounded;
* `Binary64.compare?` — numeric order, undefined on `nan`.
-/

namespace EventRules

namespace Finite64

/-- The least mantissa of a number that is not too small to use all of its digits. -/
abbrev leastNormal : Nat := 4503599627370496

/-- What all mantissas are below. -/
abbrev mantissaLimit : Nat := 9007199254740992

/-- The mantissa and scale of a finite number in its only form. -/
def Canonical (mantissa scale : Nat) : Prop :=
  mantissa < mantissaLimit ∧ (leastNormal ≤ mantissa ∨ scale = 0) ∧ scale ≤ 2045

end Finite64

instance (mantissa scale : Nat) : Decidable (Finite64.Canonical mantissa scale) :=
  inferInstanceAs (Decidable (_ ∧ _))

/-- A finite double: `mantissa * 2 ^ scale` units of `2 ^ -1074`, with a sign. -/
structure Finite64 where
  negative : Bool
  mantissa : Nat
  scale : Nat
  canonical : Finite64.Canonical mantissa scale
  deriving DecidableEq

inductive Binary64 where
  | finite (x : Finite64)
  | infinity (negative : Bool)
  | nan
  deriving DecidableEq

namespace Finite64

/-- How many units one is. -/
def unitsPerOne : Nat := 1 <<< 1074

def zero (negative : Bool) : Finite64 where
  negative := negative
  mantissa := 0
  scale := 0
  canonical := by decide

/-- The absolute value in units. -/
def units (x : Finite64) : Nat := x.mantissa <<< x.scale

/-- The value in units. -/
def signedUnits (x : Finite64) : Int := if x.negative then -(x.units : Int) else x.units

def isZero (x : Finite64) : Bool := x.mantissa == 0

def negate (x : Finite64) : Finite64 := { x with negative := !x.negative }

/-- Toward zero. -/
def truncate (x : Finite64) : Int :=
  let whole : Int := x.units / unitsPerOne
  if x.negative then -whole else whole

/-- Toward minus infinity. -/
def floor (x : Finite64) : Int := x.signedUnits.fdiv unitsPerOne

/-- Toward plus infinity. -/
def ceiling (x : Finite64) : Int := -((-x.signedUnits).fdiv unitsPerOne)

/-- To the nearest integer, a half going away from zero. -/
def round (x : Finite64) : Int :=
  let whole : Int := (2 * x.units + unitsPerOne) / (2 * unitsPerOne)
  if x.negative then -whole else whole

def isInteger (x : Finite64) : Bool := x.units % unitsPerOne == 0

end Finite64

/-- The natural number nearest to `num / den`, a tie going to the even one. -/
def roundHalfEven (num den : Nat) : Nat :=
  let q := num / den
  let r := num % den
  if 2 * r < den then q
  else if den < 2 * r then q + 1
  else if q % 2 = 0 then q else q + 1

namespace Binary64

def zero : Binary64 := .finite (.zero false)

/-- A value from its parts; parts that are too large for the format are an infinity. -/
def ofParts (negative : Bool) (mantissa scale : Nat) : Binary64 :=
  if h : Finite64.Canonical mantissa scale then .finite ⟨negative, mantissa, scale, h⟩
  else .infinity negative

/-- The value nearest to `num / den` units. -/
def ofUnits (negative : Bool) (num den : Nat) : Binary64 :=
  let scale := (num / den).log2 - 52
  let mantissa := roundHalfEven num (den <<< scale)
  if mantissa = Finite64.mantissaLimit then ofParts negative Finite64.leastNormal (scale + 1)
  else ofParts negative mantissa scale

/-- The value nearest to `num / den`. -/
def ofRatio (negative : Bool) (num den : Nat) : Binary64 :=
  ofUnits negative (num * Finite64.unitsPerOne) den

def ofNat (n : Nat) : Binary64 := ofRatio false n 1

def ofInt (i : Int) : Binary64 := ofRatio (decide (i < 0)) i.natAbs 1

/-- The value nearest to `significand * 10 ^ exponent`.  Exponents beyond the format are settled by
the number of digits, so that no huge power is computed. -/
def ofDecimal (negative : Bool) (significand : Nat) (exponent : Int) : Binary64 :=
  let magnitude : Int := (Nat.toDigits 10 significand).length + exponent
  if significand = 0 then .finite (.zero negative)
  else if 310 < magnitude then .infinity negative
  else if magnitude < -330 then .finite (.zero negative)
  else if 0 ≤ exponent then ofRatio negative (significand * Nat.pow 10 exponent.toNat) 1
  else ofRatio negative significand (Nat.pow 10 (-exponent).toNat)

/-! ## Classification -/

def isNaN : Binary64 → Bool
  | .nan => true
  | _ => false

def isZero : Binary64 → Bool
  | .finite x => x.isZero
  | _ => false

def finite? : Binary64 → Option Finite64
  | .finite x => some x
  | _ => none

def isNegative : Binary64 → Bool
  | .finite x => x.negative
  | .infinity s => s
  | .nan => false

/-! ## Arithmetic -/

def negate : Binary64 → Binary64
  | .finite x => .finite x.negate
  | .infinity s => .infinity (!s)
  | .nan => .nan

def abs : Binary64 → Binary64
  | .finite x => .finite { x with negative := false }
  | .infinity _ => .infinity false
  | .nan => .nan

def add : Binary64 → Binary64 → Binary64
  | .finite x, .finite y =>
      let sum := x.signedUnits + y.signedUnits
      if sum = 0 then .finite (.zero (x.negative && y.negative))
      else ofUnits (decide (sum < 0)) sum.natAbs 1
  | .infinity s, .infinity t => if s = t then .infinity s else .nan
  | .infinity s, .finite _ => .infinity s
  | .finite _, .infinity t => .infinity t
  | _, _ => .nan

def sub (x y : Binary64) : Binary64 := x.add y.negate

def mul : Binary64 → Binary64 → Binary64
  | .finite x, .finite y =>
      ofUnits (x.negative != y.negative) (x.units * y.units) Finite64.unitsPerOne
  | .infinity s, .infinity t => .infinity (s != t)
  | .infinity s, .finite y => if y.isZero then .nan else .infinity (s != y.negative)
  | .finite x, .infinity t => if x.isZero then .nan else .infinity (x.negative != t)
  | _, _ => .nan

def div : Binary64 → Binary64 → Binary64
  | .finite x, .finite y =>
      if y.isZero then
        if x.isZero then .nan else .infinity (x.negative != y.negative)
      else ofRatio (x.negative != y.negative) x.units y.units
  | .infinity _, .infinity _ => .nan
  | .infinity s, .finite y => .infinity (s != y.negative)
  | .finite x, .infinity t => .finite (.zero (x.negative != t))
  | _, _ => .nan

/-- The remainder of truncated division; it has the sign of the dividend and is exact. -/
def remainder : Binary64 → Binary64 → Binary64
  | .finite x, .finite y =>
      if y.isZero then .nan else ofUnits x.negative (x.units % y.units) 1
  | .finite x, .infinity _ => .finite x
  | _, _ => .nan

/-- Applies an integer rounding; the sign of a zero result is that of the argument. -/
def mapInteger (f : Finite64 → Int) : Binary64 → Binary64
  | .finite x => ofRatio x.negative (f x).natAbs 1
  | other => other

def floor : Binary64 → Binary64 := mapInteger Finite64.floor

def ceiling : Binary64 → Binary64 := mapInteger Finite64.ceiling

def round : Binary64 → Binary64 := mapInteger Finite64.round

def truncate : Binary64 → Binary64 := mapInteger Finite64.truncate

/-! ## Order -/

/-- Numeric order; nothing compares with `nan`. -/
def compare? : Binary64 → Binary64 → Option Ordering
  | .nan, _ => none
  | _, .nan => none
  | .infinity s, .infinity t => some (compare (!s) (!t))
  | .infinity s, .finite _ => some (if s then .lt else .gt)
  | .finite _, .infinity t => some (if t then .gt else .lt)
  | .finite x, .finite y => some (compare x.signedUnits y.signedUnits)

/-! ## Bits -/

def signBit (negative : Bool) : Nat := if negative then 1 <<< 63 else 0

/-- The interchange format: sign, eleven bits of exponent, fifty-two bits of fraction. -/
def toBits : Binary64 → UInt64
  | .finite x =>
      let field : Nat := if x.mantissa < Finite64.leastNormal then 0 else x.scale + 1
      UInt64.ofNat (signBit x.negative + (field <<< 52) + x.mantissa % Finite64.leastNormal)
  | .infinity s => UInt64.ofNat (signBit s + (2047 <<< 52))
  | .nan => UInt64.ofNat ((2047 <<< 52) + (1 <<< 51))

def ofBits (bits : UInt64) : Binary64 :=
  let n := bits.toNat
  let negative := decide (1 <<< 63 ≤ n)
  let field := (n >>> 52) % 2048
  let fraction := n % Finite64.leastNormal
  if field = 2047 then
    if fraction = 0 then .infinity negative else .nan
  else if field = 0 then ofParts negative fraction 0
  else ofParts negative (Finite64.leastNormal + fraction) (field - 1)

/-- Exponentiation by the platform's elementary function. -/
def power (x y : Binary64) : Binary64 :=
  ofBits (Float.pow (Float.ofBits x.toBits) (Float.ofBits y.toBits)).toBits

end Binary64

end EventRules
