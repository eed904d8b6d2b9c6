import EventRules.Json.Basic
import EventRules.Text.Quoted

/-!
# Cause — why typed data cannot be read from a value

* `Found` — what stands where something else was expected;
* `Cause` — the reasons, independent of where the data came from;
* `Cause.message` — their wording; a source of data says how it spells an absent value and a float.
-/

namespace EventRules

inductive Found where
  | unit
  | bool (b : Bool)
  | integer (n : Int)
  /-- A whole number of more than 64 bits. -/
  | wideInteger (n : Int)
  | float (x : Binary64)
  | string (s : String)
  | sequence
  | map
  | enumeration
  deriving DecidableEq

inductive Cause where
  | invalidType (found : Found) (expected : String)
  | invalidValue (found : Found) (expected : String)
  | invalidLength (length : Nat) (expected : String)
  | unknownVariant (name : String) (known : List String)
  | missingField (name : String)
  | duplicateField (name : String)
  | numberOutOfRange
  deriving DecidableEq

/-- How a source of data spells what it found. -/
structure Wording where
  unit : String
  float : DecimalLayout

namespace Found

def ofNumber : Number → Found
  | .integer n _ => .integer n
  | .float x => .float (.finite x)

def ofJson : Json → Found
  | .null => .unit
  | .bool b => .bool b
  | .number n => ofNumber n
  | .string s => .string s
  | .array _ => .sequence
  | .object _ => .map

def floatText (layout : DecimalLayout) : Binary64 → String
  | .finite x => layout.write x
  | .infinity negative => if negative then "-inf" else "inf"
  | .nan => "NaN"

def describe (w : Wording) : Found → String
  | .unit => w.unit
  | .bool b => "boolean `" ++ (if b then "true" else "false") ++ "`"
  | .integer n => "integer `" ++ toString n ++ "`"
  | .wideInteger n =>
      "integer `" ++ toString n ++ "` as " ++ (if n < 0 then "i128" else "u128")
  | .float x => "floating point `" ++ floatText w.float x ++ "`"
  | .string s => "string " ++ Text.quoted s
  | .sequence => "sequence"
  | .map => "map"
  | .enumeration => "enum"

end Found

namespace Cause

def oneOf (names : List String) : String :=
  let marked := names.map fun name => "`" ++ name ++ "`"
  match marked with
  | [] => "there are no variants"
  | [a] => "expected " ++ a
  | [a, b] => "expected " ++ a ++ " or " ++ b
  | _ => "expected one of " ++ ", ".intercalate marked

def message (w : Wording) : Cause → String
  | .invalidType found expected =>
      "invalid type: " ++ found.describe w ++ ", expected " ++ expected
  | .invalidValue found expected =>
      "invalid value: " ++ found.describe w ++ ", expected " ++ expected
  | .invalidLength length expected =>
      "invalid length " ++ toString length ++ ", expected " ++ expected
  | .unknownVariant name known => "unknown variant `" ++ name ++ "`, " ++ oneOf known
  | .missingField name => "missing field `" ++ name ++ "`"
  | .duplicateField name => "duplicate field `" ++ name ++ "`"
  | .numberOutOfRange => "JSON number out of range"

end Cause

/-- The wording of values in JSON. -/
def Json.wording : Wording := ⟨"null", Number.layout⟩

end EventRules
