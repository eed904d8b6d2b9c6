import EventRules.Decode.Cause

/-!
# Source — where typed data is read from

The readers of the domain's records are written once against `Source` and run on every form in which
such records arrive: as text, as a value that is already in memory, as a rule document.

* `Record` — named fields of one object, read one after the other into an accumulator;
* `Source` — what a form of data has to offer; `BatchSource` and `RuleSource` add what batches of
  changes and rule documents need.
-/

namespace EventRules

/-- A field of a record, with the names it may go by. -/
structure Field (m : Type → Type) (σ : Type) where
  /-- The first name is the one that messages use. -/
  names : List String
  read : σ → m σ
  /-- Whether the accumulator has the field already. -/
  isSet : σ → Bool
  /-- Whether a record written as a list may end before the field. -/
  optional : Bool

def Field.name {m : Type → Type} {σ : Type} (field : Field m σ) : String :=
  field.names.head?.getD ""

/-- What happens to the fields that a record does not know. -/
inductive Others (m : Type → Type) (σ : Type) where
  | ignored
  | kept (read : String → σ → m σ)

/-- A record: its fields, read into an accumulator that is checked at the end. -/
structure Record (m : Type → Type) (σ α : Type) where
  /-- What messages call it. -/
  description : String
  start : σ
  fields : List (Field m σ)
  others : Others m σ
  finish : σ → Except Cause α

namespace Record

variable {m : Type → Type} {σ α : Type}

def field? (record : Record m σ α) (name : String) : Option (Field m σ) :=
  record.fields.find? fun field => field.names.contains name

/-- What a list of too few values for the record is told. -/
def lengthExpected (record : Record m σ α) : String :=
  record.description ++ " with " ++ toString record.fields.length ++
    (if record.fields.length = 1 then " element" else " elements")

end Record

/-- A form of data in which records can be written. -/
class Source (m : Type → Type) extends Monad m where
  fail {α : Type} : Cause → m α
  text : m String
  json : m Json
  optional {α : Type} : m α → m (Option α)
  record {σ α : Type} : Record m σ α → m α

/-- A form of data in which batches of named entries can be written. -/
class BatchSource (m : Type → Type) extends Source m where
  /-- The entries of a map, in the order of the document and with repeated names. -/
  entries {α : Type} : m α → m (List (String × α))

/-- A form of data in which lists of rules can be written. -/
class RuleSource (m : Type → Type) extends Source m where
  list {α : Type} : m α → m (List α)
  /-- One of a fixed set of names. -/
  name {α : Type} : (known : List String) → (String → Option α) → m α

/-- The value of a field that has to be there. -/
def Record.required {α : Type} (name : String) (value : Option α) : Except Cause α :=
  match value with
  | some a => .ok a
  | none => .error (.missingField name)

end EventRules
