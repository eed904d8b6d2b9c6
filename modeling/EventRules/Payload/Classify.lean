import EventRules.Decode.Tree
import EventRules.Payload.Basic

/-!
# Classify — telling the two payloads apart

A value with a non-empty `type` is an action.  Any other value with a non-empty `key` and a `value`,
which may be null, is a property update.  Everything else is no payload; nor is an action whose
`thngId` or `customFields` has the wrong type.
-/

namespace EventRules

/-- A value is no payload; `fault` says why if its shape is that of one. -/
structure Unclassifiable where
  value : Json
  fault : Option Cause
  deriving DecidableEq

def Unclassifiable.message (e : Unclassifiable) : String :=
  "Payload is neither an action nor a property update: " ++ e.value.compact ++
    match e.fault with
    | some cause => ": " ++ cause.message Json.wording
    | none => ""

namespace ActionPayload

/-- The fields of an action that have been read. -/
structure Draft where
  type : Option String
  thngId : Option (Option String)
  customFields : Option (Option (Fields Json))
  extra : Fields Json

def readCustomFields {m : Type → Type} [BatchSource m] : m (Option (Fields Json)) :=
  Source.optional (Fields.ofList <$> BatchSource.entries Source.json)

def record {m : Type → Type} [BatchSource m] : Record m Draft ActionPayload where
  description := "struct ActionPayload"
  start := ⟨none, none, none, []⟩
  fields := [
    { names := ["type"]
      read := fun draft => do return { draft with type := some (← Source.text) }
      isSet := fun draft => draft.type.isSome
      optional := false },
    { names := ["thngId"]
      read := fun draft => do return { draft with thngId := some (← Source.optional Source.text) }
      isSet := fun draft => draft.thngId.isSome
      optional := true },
    { names := ["customFields"]
      read := fun draft => do return { draft with customFields := some (← readCustomFields) }
      isSet := fun draft => draft.customFields.isSome
      optional := true }]
  others := .kept fun name draft => do
    return { draft with extra := draft.extra.insert name (← Source.json) }
  finish := fun draft => do
    let type ← Record.required "type" draft.type
    return ⟨type, draft.thngId.join, draft.customFields.join, draft.extra⟩

def ofJson (value : Json) : Except Cause ActionPayload :=
  (Source.record record : TreeReader ActionPayload) value

end ActionPayload

namespace Payload

/-- A text that is not empty. -/
def isNonEmptyText : Option Json → Bool
  | some (.string s) => s != ""
  | _ => false

def classify (value : Json) : Except Unclassifiable Payload :=
  if isNonEmptyText (value.get? "type") then
    match ActionPayload.ofJson value with
    | .ok payload => .ok (.action payload)
    | .error cause => .error ⟨value, some cause⟩
  else
    match value.get? "key", value.get? "value" with
    | some (.string key), some content =>
        if key = "" then .error ⟨value, none⟩ else .ok (.property ⟨key, content⟩)
    | _, _ => .error ⟨value, none⟩

end Payload

end EventRules
