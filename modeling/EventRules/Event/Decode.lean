import EventRules.Decode.Tree
import EventRules.Event.Basic
import EventRules.Json.Text.Document

/-!
# Decode — events read from texts and values

The records of an event are read from any source.  An envelope names its event in the field `event`,
which may stand anywhere among the others, or is a list with the name in front; everything else is
gathered first, and read once the name is known.

* `ActionEvent.read`, `PropertyChangeEvent.read` — events without an envelope;
* `HostEvent.ofText`, `HostEvent.ofJson` — events in an envelope.
-/

namespace EventRules

/-! ## Actions -/

namespace Action

/-- The fields of an action that have been read. -/
structure Draft where
  type : Option String
  thng : Option (Option String)
  fields : Fields Json

def record {m : Type → Type} [Source m] : Record m Draft Action where
  description := "struct Action"
  start := ⟨none, none, []⟩
  fields := [
    { names := ["type"]
      read := fun draft => do return { draft with type := some (← Source.text) }
      isSet := fun draft => draft.type.isSome
      optional := false },
    { names := ["thng"]
      read := fun draft => do return { draft with thng := some (← Source.optional Source.text) }
      isSet := fun draft => draft.thng.isSome
      optional := true }]
  others := .kept fun name draft => do
    return { draft with fields := draft.fields.insert name (← Source.json) }
  finish := fun draft => do
    let type ← Record.required "type" draft.type
    return ⟨type, draft.thng.join, draft.fields⟩

def read {m : Type → Type} [Source m] : m Action := Source.record record

end Action

def ActionEvent.read {m : Type → Type} [Source m] : m ActionEvent :=
  Source.record {
    description := "struct ActionEvent"
    start := none
    fields := [
      { names := ["action"]
        read := fun _ => some <$> Action.read
        isSet := Option.isSome
        optional := false }]
    others := .ignored
    finish := fun action => ActionEvent.mk <$> Record.required "action" action }

/-! ## Property changes -/

/-- A reference to an entity: its name is all that counts. -/
def readThngRef {m : Type → Type} [Source m] : m String :=
  Source.record {
    description := "struct ThngRef"
    start := none
    fields := [
      { names := ["id"]
        read := fun _ => some <$> Source.text
        isSet := Option.isSome
        optional := false }]
    others := .ignored
    finish := Record.required "id" }

namespace Change

/-- The values of a change that have been read. -/
structure Draft where
  newValue : Option Json
  oldValue : Option (Option Json)

def record {m : Type → Type} [Source m] : Record m Draft Change where
  description := "struct PropertyChange"
  start := ⟨none, none⟩
  fields := [
    { names := ["newValue"]
      read := fun draft => do return { draft with newValue := some (← Source.json) }
      isSet := fun draft => draft.newValue.isSome
      optional := true },
    { names := ["oldValue"]
      read := fun draft => do
        return { draft with oldValue := some (← Source.optional Source.json) }
      isSet := fun draft => draft.oldValue.isSome
      optional := true }]
  others := .ignored
  finish := fun draft => .ok ⟨draft.newValue.getD .null, draft.oldValue.join⟩

def read {m : Type → Type} [Source m] : m Change := Source.record record

end Change

def Batch.read {m : Type → Type} [BatchSource m] : m Batch :=
  Batch.ofAssignments <$> BatchSource.entries Change.read

namespace PropertyChangeEvent

/-- The fields of a property-change event that have been read. -/
structure Draft where
  thng : Option String
  changes : Option Batch

def record {m : Type → Type} [BatchSource m] : Record m Draft PropertyChangeEvent where
  description := "struct PropertyChangeEvent"
  start := ⟨none, none⟩
  fields := [
    { names := ["thng"]
      read := fun draft => do return { draft with thng := some (← readThngRef) }
      isSet := fun draft => draft.thng.isSome
      optional := false },
    { names := ["changes"]
      read := fun draft => do return { draft with changes := some (← Batch.read) }
      isSet := fun draft => draft.changes.isSome
      optional := false }]
  others := .ignored
  finish := fun draft => do
    let thng ← Record.required "thng" draft.thng
    let changes ← Record.required "changes" draft.changes
    return ⟨thng, changes⟩

def read {m : Type → Type} [BatchSource m] : m PropertyChangeEvent := Source.record record

end PropertyChangeEvent

/-! ## Envelopes -/

namespace HostEvent

inductive Kind where
  | actionCreated
  | thngPropertiesChanged
  deriving DecidableEq

def tagField : String := "event"

def description : String := "internally tagged enum HostEvent"

def kindNames : List String := ["actionCreated", "thngPropertiesChanged"]

def kindOfName (name : String) : Except Cause Kind :=
  if name = "actionCreated" then .ok .actionCreated
  else if name = "thngPropertiesChanged" then .ok .thngPropertiesChanged
  else .error (.unknownVariant name kindNames)

/-- The event of a kind whose other fields were gathered. -/
def ofContent (kind : Kind) (content : Json) : Except Cause HostEvent :=
  match kind with
  | .actionCreated => .actionCreated <$> (ActionEvent.read : TreeReader _) content
  | .thngPropertiesChanged =>
      .thngPropertiesChanged <$> (PropertyChangeEvent.read : TreeReader _) content

/-- The kind named by a value. -/
def kindOfJson : Json → Except Cause Kind
  | .string name => kindOfName name
  | other => .error (.invalidType (.ofJson other) "variant identifier")

/-- Parts the members of an envelope into the kind and the rest. -/
def partMembers : List (String × Json) → Option Kind → Except Cause (Kind × List (String × Json))
  | [], none => .error (.missingField tagField)
  | [], some kind => .ok (kind, [])
  | (name, value) :: rest, kind? => do
      if name = tagField then
        if kind?.isSome then .error (.duplicateField tagField)
        else partMembers rest (some (← kindOfJson value))
      else
        let (kind, others) ← partMembers rest kind?
        return (kind, (name, value) :: others)

/-- An event in its envelope, from a value with its entries in any order. -/
def ofJson (envelope : Json) : Except Cause HostEvent := do
  match envelope with
  | .object members =>
      let (kind, others) ← partMembers members none
      ofContent kind (.object others)
  | .array [] => .error (.missingField tagField)
  | .array (tag :: items) => ofContent (← kindOfJson tag) (.array items)
  | other => .error (.invalidType (.ofJson other) description)

open Json.TextReader in
/-- A kind named at the cursor. -/
def readKind : Json.TextReader Kind := do
  let name ← string "variant identifier"
  located do
    match kindOfName name with
    | .ok kind => return kind
    | .error cause => fail cause

open Json.TextReader in
/-- The members of an envelope: the kind if it was named, and the rest. -/
def readMembers : Json.TextReader (Kind × List (String × Json)) := do
  let (kind?, others) ← foldMembers
    (fun name (acc : Option Kind × List (String × Json)) => do
      if name = tagField then
        if acc.1.isSome then fail (.duplicateField tagField)
        else
          colon
          return (some (← readKind), acc.2)
      else
        colon
        return (acc.1, (name, ← value) :: acc.2))
    (none, [])
  match kind? with
  | some kind => return (kind, others.reverse)
  | none => fail (.missingField tagField)

open Json.TextReader in
/-- The elements of an envelope that is a list. -/
def readElements : Json.TextReader (Kind × List Json) := do
  if (← hasElement true) then
    let kind ← readKind
    let items ← elements value false
    return (kind, items)
  else fail (.missingField tagField)

open Json.TextReader in
/-- An event in its envelope. -/
def read : Json.TextReader HostEvent := do
  let (kind, content) ←
    match (← peekToken?) with
    | some '[' => do
        let (kind, items) ← bracketed '[' readElements closeList description
        pure (kind, Json.array items)
    | _ => do
        let (kind, members) ← bracketed '\x7b' readMembers closeObject description
        pure (kind, Json.object members)
  match ofContent kind content with
  | .ok event => return event
  | .error cause => fail cause

def ofText (text : String) : Except Json.Fault HostEvent := Json.decode read text

end HostEvent

end EventRules
