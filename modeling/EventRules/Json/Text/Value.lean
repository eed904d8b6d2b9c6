import EventRules.Json.Text.Literal
import EventRules.Json.Text.Numeral

/-!
# Value — values in a JSON text

* `TextReader.elements`, `TextReader.members` — what stands between brackets, for any reader of the
  parts;
* `TextReader.value` — a value with its entries in the order of the text;
* `TextReader.skipValue` — passes over a value whose content nobody asks for: it may be nested to any
  depth and its numbers may have any size.
-/

namespace EventRules
namespace Json
namespace TextReader

variable {α : Type}

/-! ## Lists -/

/-- Whether another element follows; the cursor then stands at it. -/
def hasElement (first : Bool) : TextReader Bool := do
  match (← peekToken?) with
  | none => malformedNext .endInList
  | some c =>
      if c = ']' then return false
      else if first then return true
      else if c = ',' then
        advance
        match (← peekToken?) with
        | none => malformedNext .endInValue
        | some d => if d = ']' then malformedNext .trailingComma else return true
      else malformedNext .expectedCommaOrBracket

def elementLoop (element : TextReader α) : Nat → Bool → TextReader (List α)
  | 0, _ => return []
  | steps + 1, first => do
      if (← hasElement first) then
        let x ← element
        let xs ← elementLoop element steps false
        return x :: xs
      else return []

/-- The elements of a list, up to its closing bracket. -/
def elements (element : TextReader α) (first : Bool) : TextReader (List α) := do
  elementLoop element ((← remaining) + 1) first

def closeList : TextReader Unit := do
  match (← peekToken?) with
  | none => malformedNext .endInList
  | some c =>
      if c = ']' then advance
      else if c = ',' then
        advance
        match (← peekToken?) with
        | some ']' => malformedNext .trailingComma
        | _ => malformedNext .trailingCharacters
      else malformedNext .trailingCharacters

/-! ## Objects -/

/-- Whether another name follows; the cursor then stands behind its opening quote. -/
def hasName (first : Bool) : TextReader Bool := do
  match (← peekToken?) with
  | none => malformedNext .endInObject
  | some c =>
      if c = '\x7d' then return false
      else if first then
        if c = '"' then
          advance
          return true
        else malformedNext .nameNotString
      else if c = ',' then
        advance
        match (← peekToken?) with
        | none => malformedNext .endInValue
        | some d =>
            if d = '"' then
              advance
              return true
            else if d = '\x7d' then malformedNext .trailingComma
            else malformedNext .nameNotString
      else malformedNext .expectedCommaOrBrace

def colon : TextReader Unit := do
  match (← peekToken?) with
  | none => malformedNext .endInObject
  | some c => if c = ':' then advance else malformedNext .expectedColon

/-- Folds over the members of an object.  A step is given the name and reads the rest of the
member, from the colon on. -/
def memberLoop {σ : Type} (step : String → σ → TextReader σ) : Nat → Bool → σ → TextReader σ
  | 0, _, acc => return acc
  | steps + 1, first, acc => do
      if (← hasName first) then
        let name ← stringBody
        let next ← step name acc
        memberLoop step steps false next
      else return acc

def foldMembers {σ : Type} (step : String → σ → TextReader σ) (start : σ) : TextReader σ := do
  memberLoop step ((← remaining) + 1) true start

/-- The members of an object, up to its closing brace. -/
def members (element : TextReader α) : TextReader (List (String × α)) := do
  let found ← foldMembers (fun name read => do
    colon
    let x ← element
    return (name, x) :: read) []
  return found.reverse

def closeObject : TextReader Unit := do
  match (← peekToken?) with
  | none => malformedNext .endInObject
  | some c =>
      if c = '\x7d' then advance
      else if c = ',' then malformedNext .trailingComma
      else malformedNext .trailingCharacters

/-! ## Values -/

/-- A value that is no list and no object; the cursor stands at its first character. -/
def scalar (c : Char) : TextReader Json := do
  if c = 'n' then
    advance
    word ['u', 'l', 'l']
    return .null
  else if c = 't' then
    advance
    word ['r', 'u', 'e']
    return .bool true
  else if c = 'f' then
    advance
    word ['a', 'l', 's', 'e']
    return .bool false
  else if c = '"' then
    advance
    return .string (← stringBody)
  else if c = '-' || c.isDigit then return .number (← numeral)
  else malformedNext .expectedValue

/-- A value nested less than `depth` deep. -/
def valueWithin : (depth : Nat) → TextReader Json
  | 0 => malformedNext .tooDeep
  | depth + 1 => do
      match (← peekToken?) with
      | none => malformedNext .endInValue
      | some '[' =>
          if depth = 0 then malformedNext .tooDeep
          else
            advance
            return .array (← andThen (elements (valueWithin depth) true) closeList)
      | some '\x7b' =>
          if depth = 0 then malformedNext .tooDeep
          else
            advance
            return .object (← andThen (members (valueWithin depth)) closeObject)
      | some c => scalar c

def value : TextReader Json := do valueWithin (← get).depth

/-! ## Passing over values -/

def skipDigits : TextReader Unit := do
  let _ ← takeDigits

/-- At least one digit. -/
def skipSomeDigits : TextReader Unit := do
  match (← peek?) with
  | some c => if c.isDigit then skipDigits else malformedNext .invalidNumber
  | none => malformedNext .invalidNumber

def skipNumeral : TextReader Unit := do
  if (← peekIs '-') then advance
  match (← peek?) with
  | some '0' =>
      advance
      match (← peek?) with
      | some c => if c.isDigit then malformedNext .invalidNumber
      | none => pure ()
  | _ => skipSomeDigits
  if (← peekIs '.') then
    advance
    skipSomeDigits
  match (← peek?) with
  | some 'e' | some 'E' =>
      advance
      match (← peek?) with
      | some '+' | some '-' => advance
      | _ => pure ()
      skipSomeDigits
  | _ => pure ()

def skipScalar (c : Char) : TextReader Unit := do
  if c = '"' then
    advance
    skipStringBody
  else if c = '-' || c.isDigit then skipNumeral
  else
    let _ ← scalar c

mutual

def skipWithin : (steps : Nat) → TextReader Unit
  | 0 => malformedNext .endInValue
  | steps + 1 => do
      match (← peekToken?) with
      | none => malformedNext .endInValue
      | some '[' =>
          advance
          skipElements steps true
      | some '\x7b' =>
          advance
          skipMembers steps true
      | some c => skipScalar c

def skipElements : (steps : Nat) → (first : Bool) → TextReader Unit
  | 0, _ => malformedNext .endInList
  | steps + 1, first => do
      match (← peekToken?) with
      | none => malformedNext .endInList
      | some c =>
          if c = ']' then advance
          else if first then
            skipWithin steps
            skipElements steps false
          else if c = ',' then
            advance
            skipWithin steps
            skipElements steps false
          else malformedNext .expectedCommaOrBracket

def skipMembers : (steps : Nat) → (first : Bool) → TextReader Unit
  | 0, _ => malformedNext .endInObject
  | steps + 1, first => do
      match (← peekToken?) with
      | none => malformedNext .endInObject
      | some c =>
          if c = '\x7d' then advance
          else
            if !first then
              if c = ',' then advance else malformedNext .expectedCommaOrBrace
            match (← peekToken?) with
            | none => malformedNext .endInObject
            | some d =>
                if d = '"' then
                  advance
                  skipStringBody
                  colon
                  skipWithin steps
                  skipMembers steps false
                else malformedNext .nameNotString

end

def skipValue : TextReader Unit := do skipWithin (2 * (← remaining) + 2)

end TextReader
end Json
end EventRules
