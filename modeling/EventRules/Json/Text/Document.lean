import EventRules.Json.Text.Value

/-!
# Document — typed data read from a JSON text

A cause that a record or its parts report gets the place behind the closing bracket of the innermost
list or object around it.  A document is one value with white space around it.

* `Json.parse` — a value without a schema;
* `Json.decode` — typed data.
-/

namespace EventRules
namespace Json
namespace TextReader

variable {α σ : Type}

/-- Runs a reader behind an opening bracket, one level deeper. -/
def nested (reader : TextReader α) : TextReader α := do
  let cursor ← get
  if cursor.depth ≤ 1 then malformedNext .tooDeep
  else
    set { cursor with depth := cursor.depth - 1 }
    advance
    andThen reader (modify fun c => { c with depth := cursor.depth })

/-- Reports what stands at the cursor instead of what was expected. -/
def mismatch (c : Char) (expected : String) : TextReader α :=
  located do
    if c = '[' then fail (.invalidType .sequence expected)
    else if c = '\x7b' then fail (.invalidType .map expected)
    else
      let found ← scalar c
      fail (.invalidType (.ofJson found) expected)

/-- Reads a bracketed form, or reports what stands there instead. -/
def bracketed (opening : Char) (body : TextReader α) (close : TextReader Unit)
    (expected : String) : TextReader α := do
  match (← peekToken?) with
  | none => malformedNext .endInValue
  | some c =>
      if c = opening then located (andThen (nested body) close) else mismatch c expected

def string (expected : String) : TextReader String := do
  match (← peekToken?) with
  | none => malformedNext .endInValue
  | some c =>
      if c = '"' then
        advance
        stringBody
      else mismatch c expected

def optional (reader : TextReader α) : TextReader (Option α) := do
  match (← peekToken?) with
  | some 'n' =>
      advance
      word ['u', 'l', 'l']
      return none
  | _ => some <$> reader

def entries (reader : TextReader α) : TextReader (List (String × α)) :=
  bracketed '\x7b' (members reader) closeObject "a map"

/-- Reads the rest of a member of a record. -/
def member (r : Record TextReader σ α) (name : String) (acc : σ) : TextReader σ :=
  match r.field? name with
  | some field => do
      if field.isSet acc then fail (.duplicateField field.name)
      else
        colon
        field.read acc
  | none => do
      colon
      match r.others with
      | .ignored =>
          skipValue
          return acc
      | .kept read => read name acc

/-- Reads a record that is written as the list of its fields. -/
def places (r : Record TextReader σ α) (seen : Nat) :
    List (Field TextReader σ) → σ → TextReader σ
  | [], acc => return acc
  | field :: fields, acc => do
      if (← hasElement (seen == 0)) then
        let next ← field.read acc
        places r (seen + 1) fields next
      else if field.optional then places r seen fields acc
      else fail (.invalidLength seen r.lengthExpected)

def finished (r : Record TextReader σ α) (acc : σ) : TextReader α :=
  match r.finish acc with
  | .ok a => return a
  | .error cause => fail cause

def record (r : Record TextReader σ α) : TextReader α := do
  match r.others, (← peekToken?) with
  | .ignored, some '[' =>
      bracketed '[' (do finished r (← places r 0 r.fields r.start)) closeList r.description
  | _, _ =>
      bracketed '\x7b' (do finished r (← foldMembers (member r) r.start)) closeObject r.description

instance : Source TextReader where
  fail := fail
  text := string "a string"
  json := do return (← value).canonical
  optional := optional
  record := record

instance : BatchSource TextReader where
  entries := entries

/-- Nothing but white space follows. -/
def ending : TextReader Unit := do
  match (← peekToken?) with
  | none => return ()
  | some _ => malformedNext .trailingCharacters

end TextReader

/-- Typed data from a text. -/
def decode {α : Type} (reader : TextReader α) (text : String) : Except Fault α :=
  (ExceptT.run (do
    let a ← reader
    TextReader.ending
    return a) |>.run (Cursor.start text)).1

/-- The value that a text stands for. -/
def parse (text : String) : Except Fault Json := decode (Source.json : TextReader Json) text

end Json
end EventRules
