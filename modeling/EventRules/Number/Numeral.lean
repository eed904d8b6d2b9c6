import EventRules.Number.Shortest

/-!
# Numeral — decimal numerals, their nearest doubles, and whole numbers of a width

A numeral is an optional sign, digits with at most one point among, before or after them, and an
optional exponent; at least one digit stands outside the exponent.  The words `inf`, `infinity` and
`nan` are numerals in any case.

* `Numeral.parse?` — sign, digits and exponent of a finite numeral;
* `Numeral.toBinary64?` — the nearest double of a text;
* `Width.fits`, `Width.fitsSigned` — the whole numbers of so many bits, without and with a sign.
-/

namespace EventRules
namespace Numeral

def digitValue (c : Char) : Nat := c.toNat - 48

/-- The natural number that decimal digits stand for. -/
def natOfDigits (digits : List Char) : Nat :=
  digits.foldl (fun n c => n * 10 + digitValue c) 0

/-- Splits off a sign; the answer is whether it is a minus. -/
def splitSign : List Char → Bool × List Char
  | '-' :: rest => (true, rest)
  | '+' :: rest => (false, rest)
  | cs => (false, cs)

/-- An exponent behind its letter; nothing may follow it. -/
def exponent? (cs : List Char) : Option Int :=
  let (negative, digits) := splitSign cs
  if digits.isEmpty || !digits.all Char.isDigit then none
  else
    let n : Int := natOfDigits digits
    some (if negative then -n else n)

/-- An unsigned numeral with digits. -/
def decimal? (cs : List Char) : Option Decimal :=
  let whole := cs.takeWhile Char.isDigit
  let afterWhole := cs.dropWhile Char.isDigit
  let (fraction, rest) :=
    match afterWhole with
    | '.' :: more => (more.takeWhile Char.isDigit, more.dropWhile Char.isDigit)
    | other => ([], other)
  if whole.isEmpty && fraction.isEmpty then none
  else
    let significand := natOfDigits (whole ++ fraction)
    let shift : Int := -(fraction.length : Int)
    match rest with
    | [] => some ⟨significand, shift⟩
    | 'e' :: digits | 'E' :: digits => (exponent? digits).map fun e => ⟨significand, shift + e⟩
    | _ => none

/-- Sign and decimal of a finite numeral. -/
def parse? (cs : List Char) : Option (Bool × Decimal) :=
  let (negative, rest) := splitSign cs
  (decimal? rest).map fun d => (negative, d)

/-- The double of a word for what is not finite. -/
def word? (cs : List Char) : Option Binary64 :=
  let (negative, rest) := splitSign cs
  let lower := String.ofList (rest.map Char.toLower)
  if lower = "inf" || lower = "infinity" then some (.infinity negative)
  else if lower = "nan" then some .nan
  else none

def ofChars? (cs : List Char) : Option Binary64 :=
  match parse? cs with
  | some (negative, d) => some (.ofDecimal negative d.significand d.exponent)
  | none => word? cs

def toBinary64? (s : String) : Option Binary64 := ofChars? s.toList

end Numeral

/-! ## Whole numbers of a number of bits -/

namespace Width

/-- How many numbers there are of so many bits. -/
def count (bits : Nat) : Nat := 1 <<< bits

/-- The greatest number without a sign. -/
def greatest (bits : Nat) : Int := (count bits : Int) - 1

def leastSigned (bits : Nat) : Int := -(count (bits - 1) : Int)

def greatestSigned (bits : Nat) : Int := (count (bits - 1) : Int) - 1

/-- Whether a number can be written in so many bits without a sign. -/
def fits (bits : Nat) (n : Int) : Bool := 0 ≤ n && n ≤ greatest bits

/-- Whether a number can be written in so many bits, one of them for the sign. -/
def fitsSigned (bits : Nat) (n : Int) : Bool := leastSigned bits ≤ n && n ≤ greatestSigned bits

/-- The number of a width with a sign that is nearest to a number. -/
def clampSigned (bits : Nat) (n : Int) : Int := max (leastSigned bits) (min (greatestSigned bits) n)

end Width

end EventRules
