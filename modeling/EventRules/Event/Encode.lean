import EventRules.Event.Basic

/-!
# Encode — events as values

Entries stand in the order in which an event is written: the name of the event first, the known
fields in the order of their declaration, then the others by name.  What is absent is left out.
-/

namespace EventRules

def Action.toJson (action : Action) : Json :=
  .object <|
    [("type", .string action.type)] ++
    (action.thng.map fun thng => ("thng", Json.string thng)).toList ++
    action.fields

def ActionEvent.entries (event : ActionEvent) : List (String × Json) :=
  [("action", event.action.toJson)]

def ActionEvent.toJson (event : ActionEvent) : Json := .object event.entries

def Change.toJson (change : Change) : Json :=
  .object <|
    [("newValue", change.newValue)] ++
    (change.oldValue.map fun value => ("oldValue", value)).toList

def Batch.toJson (batch : Batch) : Json :=
  .object (batch.entries.map fun (key, change) => (key, change.toJson))

def PropertyChangeEvent.entries (event : PropertyChangeEvent) : List (String × Json) :=
  [("thng", .object [("id", .string event.thng)]), ("changes", event.changes.toJson)]

def PropertyChangeEvent.toJson (event : PropertyChangeEvent) : Json := .object event.entries

/-- The envelope: the fields of the event behind its name. -/
def HostEvent.toJson (event : HostEvent) : Json :=
  .object <| ("event", .string event.name) ::
    match event with
    | .actionCreated e => e.entries
    | .thngPropertiesChanged e => e.entries

end EventRules
