import EventRules.Json.Cursor

/-!
# Literal — strings and words in a JSON text

* `TextReader.stringBody` — a string behind its opening quote;
* `TextReader.skipStringBody` — the same without keeping it, and without asking whether its escapes
  are characters;
* `TextReader.word` — the rest of `null`, `true` and `false`.
-/

namespace EventRules
namespace Json
namespace TextReader

def hexDigit? (c : Char) : Option Nat :=
  if '0' ≤ c ∧ c ≤ '9' then some (c.toNat - 48)
  else if 'a' ≤ c ∧ c ≤ 'f' then some (c.toNat - 87)
  else if 'A' ≤ c ∧ c ≤ 'F' then some (c.toNat - 55)
  else none

/-- The place some bytes further, or nothing if the text ends before. -/
def placeAfterBytes? (place : Position) : Nat → List Char → Option Position
  | 0, _ => some place
  | _ + 1, [] => none
  | n + 1, c :: rest =>
      if c.utf8Size ≤ n + 1 then placeAfterBytes? (place.after c) (n + 1 - c.utf8Size) rest
      else some { place with column := place.column + (n + 1) }

/-- The place at the end of the text. -/
def endPlace (place : Position) (rest : List Char) : Position := rest.foldl Position.after place

/-- Four hexadecimal digits.  They are counted in bytes, whatever stands there. -/
def fourDigits : TextReader Nat := do
  let cursor ← get
  match placeAfterBytes? cursor.place 4 cursor.rest with
  | none => throw ⟨.malformed .endInString, some (endPlace cursor.place cursor.rest)⟩
  | some place =>
      match (cursor.rest.take 4).mapM hexDigit? with
      | some [a, b, c, d] =>
          set { cursor with rest := cursor.rest.drop 4, place := place }
          return ((a * 16 + b) * 16 + c) * 16 + d
      | _ => throw ⟨.malformed .invalidEscape, some place⟩

/-- The character of a `\u` escape; characters outside the first plane take two escapes. -/
def codeEscape : TextReader Char := do
  let first ← fourDigits
  if 0xdc00 ≤ first ∧ first ≤ 0xdfff then malformedHere .loneSurrogate
  else if first < 0xd800 ∨ 0xdbff < first then return Char.ofNat first
  else
    let expect (c : Char) : TextReader Unit := do
      match (← peek?) with
      | none => malformedNext .endInString
      | some d => if d = c then advance else malformedNext .brokenEscape
    expect '\\'
    expect 'u'
    let second ← fourDigits
    if second < 0xdc00 ∨ 0xdfff < second then malformedHere .loneSurrogate
    else return Char.ofNat (0x10000 + (first - 0xd800) * 0x400 + (second - 0xdc00))

def simpleEscape? : Char → Option Char
  | '"' => some '"'
  | '\\' => some '\\'
  | '/' => some '/'
  | 'b' => some '\x08'
  | 'f' => some '\x0c'
  | 'n' => some '\n'
  | 'r' => some '\r'
  | 't' => some '\t'
  | _ => none

/-- What a backslash stands for; the cursor stands behind it. -/
def escape (code : TextReader Char) : TextReader Char := do
  match (← peek?) with
  | none => malformedNext .endInString
  | some c =>
      match simpleEscape? c with
      | some meaning =>
          advance
          return meaning
      | none =>
          if c = 'u' then
            advance
            code
          else malformedNext .invalidEscape

def stringLoop : Nat → List Char → TextReader String
  | 0, _ => malformedNext .endInString
  | steps + 1, read => do
      match (← peek?) with
      | none => malformedNext .endInString
      | some '"' =>
          advance
          return String.ofList read.reverse
      | some '\\' =>
          advance
          let c ← escape codeEscape
          stringLoop steps (c :: read)
      | some c =>
          if c.toNat < 0x20 then malformedNext .controlCharacter
          else
            advance
            stringLoop steps (c :: read)

def stringBody : TextReader String := do stringLoop ((← remaining) + 1) []

def skipStringLoop : Nat → TextReader Unit
  | 0 => malformedNext .endInString
  | steps + 1 => do
      match (← peek?) with
      | none => malformedNext .endInString
      | some '"' => advance
      | some '\\' =>
          advance
          let _ ← escape (do
            let _ ← fourDigits
            return ' ')
          skipStringLoop steps
      | some c =>
          if c.toNat < 0x20 then malformedHere .controlCharacter
          else
            advance
            skipStringLoop steps

def skipStringBody : TextReader Unit := do skipStringLoop ((← remaining) + 1)

/-- The given characters. -/
def word : List Char → TextReader Unit
  | [] => return ()
  | c :: rest => do
      match (← peek?) with
      | none => malformedNext .endInValue
      | some d =>
          if d = c then
            advance
            word rest
          else malformedNext .expectedIdentifier

end TextReader
end Json
end EventRules
