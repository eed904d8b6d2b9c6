import EventRules.Decode.Cause
import EventRules.Number.Numeral
import EventRules.Yaml.Token.Basic

/-!
# Scalar — what plain scalars stand for

A plain scalar may stand for nothing, a boolean or a number; any other scalar is a text.  A tag of the
document language can ask for one of them.

* `Scalar.found` — what a scalar is;
* `Scalar.isNull`, `Scalar.bool?`, `Scalar.integer?`, `Scalar.float?` — the forms of each kind.
-/

namespace EventRules
namespace Yaml
namespace Scalar

def isNull (s : String) : Bool := ["null", "Null", "NULL", "~"].contains s

def bool? (s : String) : Option Bool :=
  if ["true", "True", "TRUE"].contains s then some true
  else if ["false", "False", "FALSE"].contains s then some false
  else none

/-! ## Whole numbers -/

def digitValue? (radix : Nat) (c : Char) : Option Nat :=
  let value :=
    if c.isDigit then c.toNat - 48
    else if 'a' ≤ c ∧ c ≤ 'f' then c.toNat - 87
    else if 'A' ≤ c ∧ c ≤ 'F' then c.toNat - 55
    else radix
  if value < radix then some value else none

/-- The number of at least one digit. -/
def natural? (radix : Nat) (digits : List Char) : Option Nat :=
  if digits.isEmpty then none
  else (digits.mapM (digitValue? radix)).map fun values => values.foldl (fun n d => n * radix + d) 0

/-- Several digits the first of which is zero are a text. -/
def hasLeadingZero (digits : List Char) : Bool :=
  1 < digits.length && digits.head? == some '0' && digits.all Char.isDigit

/-- The number behind the sign; the letter behind a zero says what its radix is. -/
def magnitude? (cs : List Char) : Option Nat :=
  let marked :=
    match cs with
    | '0' :: 'x' :: digits => natural? 16 digits
    | '0' :: 'o' :: digits => natural? 8 digits
    | '0' :: 'b' :: digits => natural? 2 digits
    | _ => none
  match marked with
  | some n => some n
  | none => if hasLeadingZero cs then none else natural? 10 cs

/-- Whole numbers of up to 128 bits. -/
def integer? (s : String) : Option Int :=
  match s.toList with
  | '-' :: rest =>
      (magnitude? rest).bind fun n => if n ≤ Width.count 127 then some (-(n : Int)) else none
  | '+' :: rest => (magnitude? rest).bind fun n => if n < Width.count 128 then some n else none
  | rest => (magnitude? rest).bind fun n => if n < Width.count 128 then some n else none

/-! ## Floats -/

/-- The finite float that a text writes. -/
def finite? (cs : List Char) : Option Binary64 :=
  match Numeral.ofChars? cs with
  | some (.finite x) => some (.finite x)
  | _ => none

def float? (s : String) : Option Binary64 :=
  if [".nan", ".NaN", ".NAN"].contains s then some .nan
  else if ["-.inf", "-.Inf", "-.INF"].contains s then some (.infinity true)
  else if [".inf", ".Inf", ".INF", "+.inf", "+.Inf", "+.INF"].contains s then
    some (.infinity false)
  else
    match s.toList with
    | '+' :: '+' :: _ => none
    | '+' :: '-' :: _ => none
    | '+' :: rest => finite? rest
    | cs => finite? cs

/-! ## Tags -/

def language : String := "tag:yaml.org,2002:"

/-- The name of a tag that is not one of the document language. -/
def variant? (tag : Option String) : Option String :=
  match tag.map String.toList with
  | some ('!' :: rest) => some (if rest.isEmpty then "!" else String.ofList rest)
  | _ => none

/-! ## All kinds -/

def ofInteger (n : Int) : Found :=
  if Number.InRange n then .integer n else .wideInteger n

def ofPlain (s : String) : Found :=
  if s = "" || isNull s then .unit
  else
    match bool? s, integer? s with
    | some b, _ => .bool b
    | none, some n => ofInteger n
    | none, none =>
        let digits :=
          match s.toList with
          | '-' :: rest => rest
          | '+' :: rest => rest
          | cs => cs
        match if hasLeadingZero digits then none else float? s with
        | some x => .float x
        | none => .string s

/-- What a tag asks for, if the text is of that kind. -/
def ofTagged (s : String) (expected : String) (found : Option Found) : Except Cause Found :=
  match found with
  | some f => .ok f
  | none => .error (.invalidValue (.string s) expected)

/-- What a scalar is. -/
def found (s : String) (style : Style) (tag : Option String) : Except Cause Found :=
  let untagged : Found := if style = .plain then ofPlain s else .string s
  match tag with
  | none => .ok untagged
  | some t =>
      if t = language ++ "bool" then ofTagged s "a boolean" ((bool? s).map .bool)
      else if t = language ++ "int" then ofTagged s "an integer" ((integer? s).map ofInteger)
      else if t = language ++ "float" then ofTagged s "a float" ((float? s).map .float)
      else if t = language ++ "null" then
        ofTagged s "null" (if isNull s then some .unit else none)
      else if (variant? tag).isSome then .ok untagged
      else .ok (.string s)

end Scalar
end Yaml
end EventRules
