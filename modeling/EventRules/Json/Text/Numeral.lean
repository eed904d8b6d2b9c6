import EventRules.Json.Cursor
import EventRules.Number.Numeral

/-!
# Numeral — numbers in a JSON text

The digits of a number are gathered into a natural number below `2 ^ 64`; digits for which there is
no room are dropped, and count only for the decimal exponent.  A number without fraction and exponent
that fits is an integer, except for `-0`.  Every other number is the nearest double of the gathered
digits, multiplied or divided once by the nearest double of a power of ten; exponents below `-308`
are taken off in steps of 308.
-/

namespace EventRules
namespace Json
namespace TextReader

/-- The greatest number of gathered digits. -/
def digitRoom : Nat := Width.count 64 - 1

def digit? (c : Char) : Option Nat := if c.isDigit then some (c.toNat - 48) else none

/-- What is gathered of a number. -/
structure Gathered where
  significand : Nat
  exponent : Int

/-- The digits at the front of a text, what follows them, and how many they are. -/
def spanDigits : List Char → List Char × List Char × Nat
  | [] => ([], [], 0)
  | c :: rest =>
      if c.isDigit then
        let (digits, after, n) := spanDigits rest
        (c :: digits, after, n + 1)
      else ([], c :: rest, 0)

/-- Takes the digits at the cursor. -/
def takeDigits : TextReader (List Char) := do
  let cursor ← get
  let (digits, after, n) := spanDigits cursor.rest
  set { cursor with
    rest := after, place := { cursor.place with column := cursor.place.column + n } }
  return digits

/-- Gathers digits while there is room; answers also how many were taken and whether all were. -/
def gather (significand : Nat) : List Char → Nat × Nat × Bool
  | [] => (significand, 0, true)
  | c :: rest =>
      let wider := significand * 10 + (digit? c).getD 0
      if wider ≤ digitRoom then
        let (total, taken, all) := gather wider rest
        (total, taken + 1, all)
      else (significand, 0, false)

/-- The greatest exponent that is read digit by digit. -/
def exponentRoom : Nat := Width.count 31 - 1

/-- Scales by powers of ten; nothing is answered when the result is no finite double. -/
def scaleTen : Nat → Binary64 → Int → Option Binary64
  | 0, _, _ => none
  | steps + 1, x, exponent =>
      if exponent.natAbs ≤ 308 then
        let power := Binary64.ofDecimal false 1 exponent.natAbs
        if 0 ≤ exponent then
          match x.mul power with
          | .finite y => some (.finite y)
          | _ => none
        else some (x.div power)
      else if x.isZero then some x
      else if 0 ≤ exponent then none
      else scaleTen steps (x.div (Binary64.ofDecimal false 1 308)) (exponent + 308)

/-- The double of gathered digits. -/
def floatOf (negative : Bool) (g : Gathered) : TextReader Number :=
  match scaleTen 8 (Binary64.ofNat g.significand) g.exponent with
  | some (.finite x) => return .float (if negative then x.negate else x)
  | _ => malformedHere .numberOutOfRange

/-- The exponent behind `e`; the cursor stands at that letter. -/
def exponentPart (negative : Bool) (g : Gathered) : TextReader Number := do
  advance
  let sign ← peek?
  let down := sign == some '-'
  if down || sign == some '+' then advance
  match (← peek?) with
  | none => malformedNext .endInValue
  | some c =>
      if !c.isDigit then malformedNext .invalidNumber
      else
        let cursor ← get
        let digits ← takeDigits
        -- how many digits are read before the exponent has no room any more
        let fits := digits.foldl (fun (state : Nat × Nat × Bool) c =>
          let (value, taken, all) := state
          if all then
            let wider := value * 10 + (digit? c).getD 0
            if wider ≤ exponentRoom then (wider, taken + 1, true) else (value, taken + 1, false)
          else state) (0, 0, true)
        let (value, taken, all) := fits
        if all then
          let e : Int := if down then -(value : Int) else value
          floatOf negative { g with exponent := g.exponent + e }
        else if g.significand = 0 || down then
          return .float (.zero negative)
        else
          throw ⟨.malformed .numberOutOfRange,
            some { cursor.place with column := cursor.place.column + taken }⟩

/-- The rest of a number whose fraction has been read. -/
def afterFraction (negative : Bool) (g : Gathered) : TextReader Number := do
  match (← peek?) with
  | some 'e' | some 'E' => exponentPart negative g
  | _ => floatOf negative g

/-- The fraction; the cursor stands at the point. -/
def fractionPart (negative : Bool) (g : Gathered) : TextReader Number := do
  advance
  let digits ← takeDigits
  if digits.isEmpty then
    match (← peek?) with
    | some _ => malformedNext .invalidNumber
    | none => malformedNext .endInValue
  else
    let (significand, taken, _) := gather g.significand digits
    afterFraction negative ⟨significand, g.exponent - taken⟩

/-- The integer that digits without fraction and exponent stand for. -/
def integerOf (negative : Bool) (n : Nat) : Number :=
  let value : Int := if negative then -(n : Int) else n
  let nearest := Binary64.ofRatio negative n 1
  if negative ∧ n = 0 then .float (.zero true)
  else
    match Number.ofInt? value, nearest with
    | some held, _ => held
    | none, .finite x => .float x
    | none, _ => .float (.zero negative)

/-- A number behind its sign. -/
def unsignedNumeral (negative : Bool) : TextReader Number := do
  match (← peek?) with
  | none => malformedNext .endInValue
  | some c =>
      if !c.isDigit then malformedNext .invalidNumber
      else
        let cursor ← get
        let digits ← takeDigits
        if c = '0' ∧ 1 < digits.length then
          throw ⟨.malformed .invalidNumber,
            some { cursor.place with column := cursor.place.column + 2 }⟩
        let (significand, taken, all) := gather 0 digits
        let g : Gathered := ⟨significand, digits.length - taken⟩
        match (← peek?) with
        | some '.' => fractionPart negative g
        | some 'e' | some 'E' => exponentPart negative g
        | _ => if all then return integerOf negative significand else floatOf negative g

/-- A number; the cursor stands at its sign or first digit. -/
def numeral : TextReader Number := do
  if (← peekIs '-') then
    advance
    unsignedNumeral true
  else unsignedNumeral false

end TextReader
end Json
end EventRules
