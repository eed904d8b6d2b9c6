import EventRules.Decode.Source

/-!
# Tree — typed data read from a value in memory

The value may list the entries of an object in any order and more than once.  There are no positions
to report.  A record may also be written as the list of its fields.
-/

namespace EventRules

/-- A reader of a value. -/
abbrev TreeReader := ReaderT Json (Except Cause)

namespace TreeReader

variable {α σ : Type}

def fail (cause : Cause) : TreeReader α := fun _ => .error cause

def mismatch (value : Json) (expected : String) : Except Cause α :=
  .error (.invalidType (.ofJson value) expected)

def text : TreeReader String
  | .string s => .ok s
  | value => mismatch value "a string"

def optional (reader : TreeReader α) : TreeReader (Option α)
  | .null => .ok none
  | value => some <$> reader value

def list (reader : TreeReader α) : TreeReader (List α)
  | .array items => items.mapM reader
  | value => mismatch value "a sequence"

def entries (reader : TreeReader α) : TreeReader (List (String × α))
  | .object members =>
      members.mapM fun (name, value) => do return (name, ← reader value)
  | value => mismatch value "a map"

/-- Reads the members of an object into the accumulator of a record. -/
def members (record : Record TreeReader σ α) : List (String × Json) → σ → Except Cause σ
  | [], acc => .ok acc
  | (name, value) :: rest, acc =>
      match record.field? name with
      | some field =>
          if field.isSet acc then .error (.duplicateField field.name)
          else do members record rest (← field.read acc value)
      | none =>
          match record.others with
          | .ignored => members record rest acc
          | .kept read => do members record rest (← read name acc value)

/-- Reads a record that is written as the list of its fields; also answers the values left over. -/
def places (record : Record TreeReader σ α) (seen : Nat) :
    List (Field TreeReader σ) → List Json → σ → Except Cause (σ × List Json)
  | [], items, acc => .ok (acc, items)
  | field :: fields, [], acc =>
      if field.optional then places record seen fields [] acc
      else .error (.invalidLength seen record.lengthExpected)
  | field :: fields, item :: items, acc => do
      places record (seen + 1) fields items (← field.read acc item)

def record (r : Record TreeReader σ α) : TreeReader α
  | .object entries => do r.finish (← members r entries r.start)
  | .array items =>
      match r.others with
      | .kept _ => mismatch (.array items) r.description
      | .ignored => do
          let (acc, left) ← places r 0 r.fields items r.start
          let result ← r.finish acc
          if left.isEmpty then .ok result
          else
            let expected := items.length - left.length
            .error (.invalidLength items.length
              (toString expected ++ (if expected = 1 then " element" else " elements") ++
                " in sequence"))
  | value => mismatch value r.description

/-- A name stands alone or as the only member of an object, which then holds nothing. -/
def name (known : List String) (meaning : String → Option α) : TreeReader α := fun value => do
  let resolve (s : String) : Except Cause α :=
    match meaning s with
    | some a => .ok a
    | none => .error (.unknownVariant s known)
  match value with
  | .string s => resolve s
  | .object [(s, content)] =>
      let a ← resolve s
      match content with
      | .null => .ok a
      | other => mismatch other "unit"
  | .object _ => .error (.invalidValue .map "map with a single key")
  | other => mismatch other "string or map"

end TreeReader

instance : Source TreeReader where
  fail := TreeReader.fail
  text := TreeReader.text
  json := fun value => .ok value.canonical
  optional := TreeReader.optional
  record := TreeReader.record

instance : BatchSource TreeReader where
  entries := TreeReader.entries

instance : RuleSource TreeReader where
  list := TreeReader.list
  name := TreeReader.name

end EventRules
