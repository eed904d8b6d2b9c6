import EventRules.Template.Value.Text

/-!
# ToJson — values outside of templates

* `Value.toJson` — the JSON value of a value.  Whole numbers have to be in the range of JSON numbers
  and keys have to be texts, numbers or booleans; what is not finite is null.
-/

namespace EventRules
namespace Template
namespace Value

def outOfRange : Fault := .of .noAnswer "number out of range"

def badName (detail : String) : Fault := .of .noAnswer detail

/-- The name of an entry. -/
def nameOf : Value → Except Fault String
  | .string s _ => .ok s
  | .bool b => .ok (if b then "true" else "false")
  | .integer n => .ok (toString n)
  | .float (.finite x) => .ok (Number.layout.write x)
  | .float _ => .error (badName "float key must be finite (got NaN or +/-inf)")
  | .function name => .ok ("<function " ++ name ++ ">")
  | .routine r _ => .ok ("<macro " ++ r.name ++ ">")
  | _ => .error (badName "key must be a string")

mutual

def toJson : Value → Except Fault Json
  | .undefined => .ok .null
  | .none => .ok .null
  | .bool b => .ok (.bool b)
  | .integer n =>
      match Number.ofInt? n with
      | some held => .ok (.number held)
      | Option.none => .error outOfRange
  | .float x => .ok (.ofBinary64 x)
  | .string s _ => .ok (.string s)
  | .seq items => do return .array (← itemsToJson items)
  | .iterable _ items => do return .array (← itemsToJson items)
  | .map entries => do return .ofEntries (← entriesToJson entries)
  | .group key items => do return .array [← toJson key, .array (← itemsToJson items)]
  | .named arguments => do return .ofEntries (← namesToJson arguments)
  | .loop facts _ _ => do return .ofEntries (← namesToJson facts)
  | .function name => .ok (.string ("<function " ++ name ++ ">"))
  | .routine r _ => .ok (.string ("<macro " ++ r.name ++ ">"))
  | .space _ entries => do return .ofEntries (← namesToJson entries)

def itemsToJson : List Value → Except Fault (List Json)
  | [] => .ok []
  | item :: rest => do return (← toJson item) :: (← itemsToJson rest)

def entriesToJson : List (Value × Value) → Except Fault (List (String × Json))
  | [] => .ok []
  | (key, value) :: rest => do
      let name ← nameOf key
      return (name, ← toJson value) :: (← entriesToJson rest)

def namesToJson : List (String × Value) → Except Fault (List (String × Json))
  | [] => .ok []
  | (name, value) :: rest => do return (name, ← toJson value) :: (← namesToJson rest)

end

end Value
end Template
end EventRules
