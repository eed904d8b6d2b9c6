/-!
# Punycode — any text in letters, digits and hyphens

The basic characters come first.  The others follow in the order of their code points, each as the
distance from the one before, counted over all places where it could stand; a distance is a number
whose digits have thresholds that adapt to the distances so far.

* `Punycode.encode`, `Punycode.decode?` — the two directions.
-/

namespace EventRules
namespace Punycode

/-! ## Digits -/

def digit (n : Nat) : Char := Char.ofNat (if n < 26 then 0x61 + n else 0x16 + n)

def digitValue? (c : Char) : Option Nat :=
  if 'a' ≤ c ∧ c ≤ 'z' then some (c.toNat - 0x61)
  else if 'A' ≤ c ∧ c ≤ 'Z' then some (c.toNat - 0x41)
  else if c.isDigit then some (c.toNat - 0x30 + 26)
  else none

/-- The threshold of the digit at a position, which counts in steps of 36. -/
def threshold (position bias : Nat) : Nat := min 26 (max 1 (position - bias))

theorem threshold_pos (position bias : Nat) : 1 ≤ threshold position bias := by
  unfold threshold
  omega

theorem threshold_le (position bias : Nat) : threshold position bias ≤ 26 := by
  unfold threshold
  omega

/-- Scales a distance down until it is small, and counts the digits that takes. -/
def scale (distance digits : Nat) : Nat :=
  if 455 < distance then scale (distance / 35) (digits + 36)
  else digits + 36 * distance / (distance + 38)
termination_by distance
decreasing_by exact Nat.div_lt_self (by omega) (by omega)

/-- The bias behind a distance, given how many characters are there. -/
def adapt (distance count : Nat) (isFirst : Bool) : Nat :=
  let halved := if isFirst then distance / 700 else distance / 2
  scale (halved + halved / count) 0

/-! ## Encoding -/

/-- The digits of a distance. -/
def distanceDigits (bias position distance : Nat) : List Char :=
  let t := threshold position bias
  if distance < t then [digit distance]
  else
    digit (t + (distance - t) % (36 - t)) ::
      distanceDigits bias (position + 36) ((distance - t) / (36 - t))
termination_by distance
decreasing_by
  have low := threshold_pos position bias
  have high := threshold_le position bias
  exact Nat.lt_of_le_of_lt (Nat.div_le_self _ _) (by omega)

/-- Where the encoder is: how many characters are written, and the distance and bias so far. -/
structure Progress where
  written : Nat
  distance : Nat
  bias : Nat

/-- Goes over the text once, writing every occurrence of one code point. -/
def writeCode (basic code : Nat) (progress : Progress) : List Char → List Char × Progress
  | [] => ([], progress)
  | c :: rest =>
      if c.toNat < code then
        writeCode basic code { progress with distance := progress.distance + 1 } rest
      else if c.toNat = code then
        let digits := distanceDigits progress.bias 36 progress.distance
        let bias := adapt progress.distance (progress.written + 1) (progress.written == basic)
        let (others, last) := writeCode basic code ⟨progress.written + 1, 0, bias⟩ rest
        (digits ++ others, last)
      else writeCode basic code progress rest

/-- Writes the code points of a list that rises; `next` is the least that may still come. -/
def writeCodes (text : List Char) (basic next : Nat) (progress : Progress) :
    List Nat → List Char
  | [] => []
  | code :: codes =>
      let skipped := (code - next) * (progress.written + 1)
      let (digits, last) :=
        writeCode basic code { progress with distance := progress.distance + skipped } text
      digits ++
        writeCodes text basic (code + 1) { last with distance := last.distance + 1 } codes

/-- Whether a character is written as it is. -/
def isBasic (c : Char) : Bool := c.toNat < 0x80

def encode (text : List Char) : List Char :=
  let basic := text.filter isBasic
  let codes := ((text.filter fun c => !isBasic c).map Char.toNat).mergeSort.eraseDups
  let first := if basic.isEmpty then [] else basic ++ ['-']
  first ++ writeCodes text basic.length 0x80 ⟨basic.length, 0, 72⟩ codes

/-! ## Decoding -/

/-- The distance at the beginning of a text of digits, and what follows it. -/
def readDistance (bias position weight : Nat) : List Char → Option (Nat × List Char)
  | [] => none
  | c :: rest => do
      let value ← digitValue? c
      let t := threshold position bias
      if value < t then return (value * weight, rest)
      else
        let (others, behind) ← readDistance bias (position + 36) (weight * (36 - t)) rest
        return (value * weight + others, behind)

/-- Inserts the characters that the digits describe; each takes at least one digit. -/
def insertCodes (steps code place bias : Nat) (isFirst : Bool) (text : List Char) :
    List Char → Option (List Char)
  | [] => some text
  | c :: rest =>
      match steps with
      | 0 => none
      | left + 1 => do
          let (distance, behind) ← readDistance bias 36 1 (c :: rest)
          let count := text.length + 1
          let total := place + distance
          let found := code + total / count
          let spot := total % count
          if found.isValidChar then
            insertCodes left found (spot + 1) (adapt distance count isFirst) false
              (text.take spot ++ Char.ofNat found :: text.drop spot) behind
          else none

def decode? (encoded : List Char) : Option (List Char) :=
  let (behind, before) := encoded.reverse.span (· != '-')
  let basic := before.drop 1 |>.reverse
  if basic.all isBasic then insertCodes encoded.length 0x80 0 72 true basic behind.reverse
  else none

end Punycode
end EventRules
