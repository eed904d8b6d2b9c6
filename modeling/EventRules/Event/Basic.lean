import EventRules.Json.Basic

/-!
# Event — what the host reports about its entities

* `Action` — an action record, with the entity it acts on and every other field verbatim;
* `PropertyChangeEvent` — a batch of property changes of one entity, in the order of the sender;
* `HostEvent` — either of the two.
-/

namespace EventRules

structure Action where
  type : String
  /-- The acting entity, when the action is attached to one. -/
  thng : Option String
  fields : Fields Json
  deriving DecidableEq

namespace Action

/-- An action without an entity and without further fields. -/
def ofType (type : String) : Action := ⟨type, none, []⟩

def onThng (action : Action) (thng : String) : Action := { action with thng := some thng }

/-- The entity an action targets; an empty name counts as none. -/
def target? (action : Action) : Option String := action.thng.filter fun name => name != ""

end Action

structure ActionEvent where
  action : Action
  deriving DecidableEq

/-- The new value of a property, and the one before it if the sender knows it. -/
structure Change where
  newValue : Json
  oldValue : Option Json
  deriving DecidableEq

def Change.ofNew (value : Json) : Change := ⟨value, none⟩

/-- Changes by property: each property stands once, where it was first named. -/
@[ext]
structure Batch where
  entries : List (String × Change)
  nodup : (entries.map Prod.fst).Nodup
  deriving DecidableEq

namespace Batch

/-- Sets the change of a property.  A property that is there keeps its place. -/
def putEntry (key : String) (change : Change) : List (String × Change) → List (String × Change)
  | [] => [(key, change)]
  | (k, c) :: rest =>
      if k = key then (k, change) :: rest else (k, c) :: putEntry key change rest

theorem map_fst_putEntry (key : String) (change : Change) (entries : List (String × Change)) :
    (putEntry key change entries).map Prod.fst =
      if key ∈ entries.map Prod.fst then entries.map Prod.fst
      else entries.map Prod.fst ++ [key] := by
  induction entries with
  | nil =>
      rfl
  | cons first rest ih =>
      rcases first with ⟨own, before⟩
      by_cases h : own = key
      · simp [putEntry, h]
      · have hne : key ≠ own := fun same => h same.symm
        rw [putEntry, if_neg h, List.map_cons, ih, List.map_cons]
        by_cases hrest : key ∈ rest.map Prod.fst
        · rw [if_pos hrest, if_pos (List.mem_cons_of_mem _ hrest)]
        · have hnot : key ∉ own :: rest.map Prod.fst := by
            simpa only [List.mem_cons, not_or] using ⟨hne, hrest⟩
          rw [if_neg hrest, if_neg hnot, List.cons_append]

theorem nodup_putEntry {key : String} {change : Change} {entries : List (String × Change)}
    (nodup : (entries.map Prod.fst).Nodup) :
    ((putEntry key change entries).map Prod.fst).Nodup := by
  rw [map_fst_putEntry]
  split
  · exact nodup
  · rename_i hnew
    have alone : [key].Nodup := List.pairwise_singleton ..
    refine List.nodup_append.2 ⟨nodup, alone, fun own hown other hother same => ?_⟩
    have hkey : other = key := List.mem_singleton.1 hother
    exact hnew (hkey ▸ same ▸ hown)

def put (key : String) (change : Change) (batch : Batch) : Batch :=
  ⟨putEntry key change batch.entries, nodup_putEntry batch.nodup⟩

/-- The batch of a list of assignments made one after the other. -/
def ofAssignments (assignments : List (String × Change)) : Batch :=
  assignments.foldl (fun batch (key, change) => batch.put key change) ⟨[], List.nodup_nil⟩

end Batch

structure PropertyChangeEvent where
  thng : String
  changes : Batch
  deriving DecidableEq

inductive HostEvent where
  | actionCreated (event : ActionEvent)
  | thngPropertiesChanged (event : PropertyChangeEvent)
  deriving DecidableEq

namespace HostEvent

def name : HostEvent → String
  | .actionCreated _ => "actionCreated"
  | .thngPropertiesChanged _ => "thngPropertiesChanged"

end HostEvent

end EventRules
