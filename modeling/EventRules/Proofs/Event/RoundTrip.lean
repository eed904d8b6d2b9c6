import EventRules.Event.Encode
import EventRules.Json.Printer
import EventRules.Proofs.Decode.Document
import EventRules.Proofs.Event.Batch

/-!
# RoundTrip — events that are written and read again

What is read of an event is well-formed, whatever form it is read from: fields and keys stand once,
further fields in order, and an old value that is null is none.  A well-formed event is read again
from what is written of it, be it a value or a text in which that value stands.

* `HostEvent.WellFormed` — the events that can be read;
* `HostEvent.ofJson_toJson`, `HostEvent.stands_read` — they are read where they are written;
* `Codec`, `events_roundTrip` — the same of all kinds of events, with and without an envelope.
-/

namespace EventRules

open Answering LawfulSource

/-! ## Well-formed events -/

/-- The further fields of an action: each name once, in order, and none that has a place of its own. -/
structure Action.WellFormedFields (fields : Fields Json) : Prop where
  sorted : Fields.Sorted fields
  others : ∀ entry ∈ fields, entry.1 ≠ "type" ∧ entry.1 ≠ "thng"
  canonical : ∀ entry ∈ fields, entry.2.Canonical

structure Change.WellFormed (change : Change) : Prop where
  newValue : change.newValue.Canonical
  /-- A null is not told from no value. -/
  oldValue : ∀ value ∈ change.oldValue, value.Canonical ∧ value ≠ .null

def Batch.WellFormed (batch : Batch) : Prop :=
  ∀ entry ∈ batch.entries, entry.2.WellFormed

def HostEvent.WellFormed : HostEvent → Prop
  | .actionCreated event => Action.WellFormedFields event.action.fields
  | .thngPropertiesChanged event => Batch.WellFormed event.changes

/-! ## What is read is well-formed -/

theorem Action.WellFormedFields.insert {fields : Fields Json} (h : WellFormedFields fields)
    {name : String} (apart : name ≠ "type" ∧ name ≠ "thng") {value : Json}
    (canonical : value.Canonical) : WellFormedFields (fields.insert name value) where
  sorted := Fields.sorted_insert h.sorted
  others := by
    intro entry hentry
    rcases Fields.mem_of_mem_insert hentry with rfl | hold
    · exact apart
    · exact h.others entry hold
  canonical := by
    intro entry hentry
    rcases Fields.mem_of_mem_insert hentry with rfl | hold
    · exact canonical
    · exact h.canonical entry hold

theorem Action.field?_eq_none_iff {m : Type → Type} [Source m] {name : String} :
    (record (m := m)).field? name = none ↔ name ≠ "type" ∧ name ≠ "thng" := by
  simp [Record.field?, record]

section Gives

variable {m : Type → Type} [BatchSource m] [Answering m] [LawfulSource m]

theorem Action.wellFormed_of_gives {action : Action} (h : Gives (read : m Action) action) :
    WellFormedFields action.fields := by
  have maintains : (record (m := m)).Maintains fun draft => WellFormedFields draft.fields := by
    refine ⟨⟨List.Pairwise.nil, by simp [record], by simp [record]⟩, ?known, ?kept⟩
    case known =>
      intro field hfield acc next hacc hread
      simp only [record, List.mem_cons, List.not_mem_nil, or_false] at hfield
      rcases hfield with rfl | rfl
      · obtain ⟨type, -, hpure⟩ := gives_bind hread
        exact gives_pure hpure ▸ hacc
      · obtain ⟨thng, -, hpure⟩ := gives_bind hread
        exact gives_pure hpure ▸ hacc
    case kept =>
      rintro keep ⟨⟩ name acc next hnone hacc hread
      obtain ⟨value, hvalue, hpure⟩ := gives_bind hread
      exact gives_pure hpure ▸ hacc.insert (field?_eq_none_iff.1 hnone) (gives_json hvalue)
  obtain ⟨draft, hdraft, hfinish⟩ := gives_record maintains h
  obtain ⟨type, -, haction⟩ := ok_of_bind hfinish
  cases haction
  exact hdraft

theorem ActionEvent.wellFormed_of_gives {event : ActionEvent}
    (h : Gives (read : m ActionEvent) event) :
    Action.WellFormedFields event.action.fields := by
  have hgathered := gives_record
    (P := fun draft : Option Action => ∀ action ∈ draft, Action.WellFormedFields action.fields)
    ⟨by simp, ?known, by rintro keep ⟨⟩⟩ h
  case known =>
    intro field hfield acc next _ hread
    cases List.mem_singleton.1 hfield
    obtain ⟨action, haction, rfl⟩ := gives_map hread
    rintro own ⟨⟩
    exact Action.wellFormed_of_gives haction
  obtain ⟨draft, hdraft, hfinish⟩ := hgathered
  obtain ⟨action, hrequired, rfl⟩ := ok_of_map hfinish
  exact hdraft action (Record.eq_some_of_required hrequired)

theorem Change.wellFormed_of_gives {change : Change} (h : Gives (read : m Change) change) :
    change.WellFormed := by
  have maintains : (record (m := m)).Maintains fun draft =>
      (∀ value ∈ draft.newValue, value.Canonical) ∧
        ∀ value ∈ draft.oldValue.join, value.Canonical ∧ value ≠ .null := by
    refine ⟨by simp [record], ?known, by rintro keep ⟨⟩⟩
    intro field hfield acc next hacc hread
    simp only [record, List.mem_cons, List.not_mem_nil, or_false] at hfield
    rcases hfield with rfl | rfl
    · obtain ⟨value, hvalue, hpure⟩ := gives_bind hread
      obtain rfl := gives_pure hpure
      refine ⟨?_, hacc.2⟩
      rintro own ⟨⟩
      exact gives_json hvalue
    · obtain ⟨value, hvalue, hpure⟩ := gives_bind hread
      obtain rfl := gives_pure hpure
      exact ⟨hacc.1, gives_optional_json hvalue⟩
  obtain ⟨draft, ⟨hnew, hold⟩, hfinish⟩ := gives_record maintains h
  cases hfinish
  refine ⟨?_, hold⟩
  cases hdraft : draft.newValue with
  | none =>
      trivial
  | some value =>
      exact hnew value hdraft

theorem Batch.wellFormed_of_gives {batch : Batch} (h : Gives (read : m Batch) batch) :
    Batch.WellFormed batch := by
  obtain ⟨assignments, hentries, rfl⟩ := gives_map h
  rintro ⟨key, change⟩ hentry
  have hsent := mem_of_lookup (mem_ofAssignments_iff.1 hentry)
  exact Change.wellFormed_of_gives (gives_entries hentries _ (List.mem_reverse.1 hsent))

theorem PropertyChangeEvent.wellFormed_of_gives {event : PropertyChangeEvent}
    (h : Gives (read : m PropertyChangeEvent) event) : Batch.WellFormed event.changes := by
  have maintains : (record (m := m)).Maintains fun draft =>
      ∀ batch ∈ draft.changes, Batch.WellFormed batch := by
    refine ⟨by simp [record], ?known, by rintro keep ⟨⟩⟩
    intro field hfield acc next hacc hread
    simp only [record, List.mem_cons, List.not_mem_nil, or_false] at hfield
    rcases hfield with rfl | rfl
    · obtain ⟨thng, -, hpure⟩ := gives_bind hread
      exact gives_pure hpure ▸ hacc
    · obtain ⟨batch, hbatch, hpure⟩ := gives_bind hread
      obtain rfl := gives_pure hpure
      rintro own ⟨⟩
      exact Batch.wellFormed_of_gives hbatch
  obtain ⟨draft, hdraft, hfinish⟩ := gives_record maintains h
  obtain ⟨thng, -, hrest⟩ := ok_of_bind hfinish
  obtain ⟨changes, hchanges, hevent⟩ := ok_of_bind hrest
  cases hevent
  exact hdraft changes (Record.eq_some_of_required hchanges)

end Gives

/-! ## What is written is read again -/

section Stands

variable {m : Type → Type} [BatchSource m] [Answering m] [LawfulSource m]

/-- The further fields of an action are put behind each other again. -/
theorem Action.gathers_fields {type : Option String} {thng : Option (Option String)}
    (before : Fields Json) {fields : Fields Json} (h : WellFormedFields (before ++ fields)) :
    (record (m := m)).Gathers fields ⟨type, thng, before⟩ ⟨type, thng, before ++ fields⟩ := by
  induction fields generalizing before with
  | nil =>
      rw [List.append_nil]
      exact .nil
  | cons entry rest ih =>
      rcases entry with ⟨name, value⟩
      have hentry : (name, value) ∈ before ++ (name, value) :: rest := by simp
      -- fields are written in order, so each is put behind those before it
      have hbehind : before.insert name value = before ++ [(name, value)] :=
        Fields.insert_behind fun other hother =>
          (List.pairwise_append.1 h.sorted).2.2 other hother _ List.mem_cons_self
      have hlater := ih (before ++ [(name, value)]) (by rwa [← List.append_cons])
      rw [← List.append_cons] at hlater
      refine .kept (field?_eq_none_iff.2 (h.others _ hentry)) rfl ?_ hlater
      have hread := stands_bind_pure (m := m)
        (fun value => (⟨type, thng, before.insert name value⟩ : Draft)) (stands_json value)
      rwa [Json.canonical_of_canonical (h.canonical _ hentry), hbehind] at hread

theorem Action.stands_toJson {action : Action} (h : WellFormedFields action.fields) :
    Stands (read : m Action) action.toJson action := by
  rcases action with ⟨type, thng, fields⟩
  have hfields (found : Option (Option String)) :
      (record (m := m)).Gathers fields ⟨some type, found, []⟩ ⟨some type, found, fields⟩ :=
    gathers_fields [] h
  have htype := stands_bind_pure (m := m) (fun type => (⟨some type, none, []⟩ : Draft))
    (stands_text type)
  cases thng with
  | none =>
      exact stands_record (.known rfl rfl htype (hfields none)) rfl
  | some thng =>
      have hthng := stands_bind_pure (m := m) (fun thng => (⟨some type, some thng, []⟩ : Draft))
        (stands_optional (by simp) (stands_text thng))
      exact stands_record (.known rfl rfl htype (.known rfl rfl hthng (hfields (some thng)))) rfl

theorem ActionEvent.stands_entries {event : ActionEvent}
    (h : Action.WellFormedFields event.action.fields) :
    Stands (read : m ActionEvent) (.object event.entries) event :=
  stands_record (.known rfl rfl (stands_map some (Action.stands_toJson h)) .nil) rfl

theorem Change.stands_toJson {change : Change} (h : change.WellFormed) :
    Stands (read : m Change) change.toJson change := by
  rcases change with ⟨newValue, oldValue⟩
  have hnew := stands_bind_pure (m := m) (fun value => (⟨some value, none⟩ : Draft))
    (stands_json newValue)
  rw [Json.canonical_of_canonical h.newValue] at hnew
  cases oldValue with
  | none =>
      exact stands_record (.known rfl rfl hnew .nil) rfl
  | some value =>
      obtain ⟨hcanonical, hnull⟩ := h.oldValue value rfl
      have hold := stands_bind_pure (m := m)
        (fun value => (⟨some newValue, some value⟩ : Draft))
        (stands_optional hnull (stands_json value))
      rw [Json.canonical_of_canonical hcanonical] at hold
      exact stands_record (.known rfl rfl hnew (.known rfl rfl hold .nil)) rfl

theorem Batch.stands_toJson {batch : Batch} (h : Batch.WellFormed batch) :
    Stands (read : m Batch) batch.toJson batch := by
  have hentries : Stands (BatchSource.entries Change.read : m _)
      (.object (batch.entries.map fun entry => (entry.1, entry.2.toJson))) batch.entries :=
    LawfulSource.stands_entries (List.forall₂_map_left_iff.2 (List.forall₂_same.2
      fun entry hentry => ⟨rfl, Change.stands_toJson (h entry hentry)⟩))
  have hread := stands_map ofAssignments hentries
  rwa [ofAssignments_entries] at hread

theorem stands_readThngRef (id : String) :
    Stands (readThngRef : m String) (.object [("id", .string id)]) id :=
  stands_record (.known rfl rfl (stands_map some (stands_text id)) .nil) rfl

theorem PropertyChangeEvent.stands_entries {event : PropertyChangeEvent}
    (h : Batch.WellFormed event.changes) :
    Stands (read : m PropertyChangeEvent) (.object event.entries) event := by
  rcases event with ⟨thng, changes⟩
  have hthng := stands_bind_pure (m := m) (fun thng => (⟨some thng, none⟩ : Draft))
    (stands_readThngRef thng)
  have hchanges := stands_bind_pure (m := m) (fun batch => (⟨some thng, some batch⟩ : Draft))
    (Batch.stands_toJson h)
  exact stands_record (.known rfl rfl hthng (.known rfl rfl hchanges .nil)) rfl

end Stands

/-! ## Envelopes -/

namespace HostEvent

/-- The kind of an event, by which its envelope names it. -/
def kind : HostEvent → Kind
  | .actionCreated _ => .actionCreated
  | .thngPropertiesChanged _ => .thngPropertiesChanged

/-- The fields that an event has next to its name. -/
def entries : HostEvent → List (String × Json)
  | .actionCreated event => event.entries
  | .thngPropertiesChanged event => event.entries

theorem toJson_eq (event : HostEvent) :
    event.toJson = .object ((tagField, .string event.name) :: event.entries) := by
  cases event <;> rfl

theorem kindOfName_name (event : HostEvent) : kindOfName event.name = .ok event.kind := by
  cases event <;> rfl

theorem entries_ne_tag (event : HostEvent) : ∀ entry ∈ event.entries, entry.1 ≠ tagField := by
  cases event <;> simp [entries, ActionEvent.entries, PropertyChangeEvent.entries, tagField]

theorem ofContent_entries {event : HostEvent} (h : event.WellFormed) :
    ofContent event.kind (.object event.entries) = .ok event := by
  cases event with
  | actionCreated event =>
      have hread : (ActionEvent.read : TreeReader _) (.object event.entries) = .ok event :=
        ActionEvent.stands_entries (m := TreeReader) h
      exact congrArg (actionCreated <$> ·) hread
  | thngPropertiesChanged event =>
      have hread : (PropertyChangeEvent.read : TreeReader _) (.object event.entries) = .ok event :=
        PropertyChangeEvent.stands_entries (m := TreeReader) h
      exact congrArg (thngPropertiesChanged <$> ·) hread

/-- Fields that are no name of an event are kept as they are. -/
theorem partMembers_of_ne_tag {members : List (String × Json)}
    (h : ∀ entry ∈ members, entry.1 ≠ tagField) (kind : Kind) :
    partMembers members (some kind) = .ok (kind, members) := by
  induction members with
  | nil =>
      rfl
  | cons entry rest ih =>
      rcases entry with ⟨name, value⟩
      obtain ⟨hname, hrest⟩ := List.forall_mem_cons.1 h
      rw [partMembers, if_neg hname, ih hrest]
      rfl

theorem ofJson_toJson {event : HostEvent} (h : event.WellFormed) :
    ofJson event.toJson = .ok event := by
  have hparted : partMembers ((tagField, .string event.name) :: event.entries) none =
      .ok (event.kind, event.entries) := by
    have htag : kindOfJson (.string event.name) = .ok event.kind := kindOfName_name event
    rw [partMembers, if_pos rfl, htag]
    exact partMembers_of_ne_tag (entries_ne_tag event) event.kind
  rw [toJson_eq]
  show (partMembers ((tagField, .string event.name) :: event.entries) none >>= fun parted =>
    ofContent parted.1 (.object parted.2)) = .ok event
  rw [hparted]
  exact ofContent_entries h

open Json.TextReader in
theorem stands_readKind (event : HostEvent) :
    Stands readKind (.string event.name) event.kind := by
  intro before after hvalue
  obtain ⟨middle, hpeek, hbody⟩ := reads_value_string hvalue
  have hname : Reads (string "variant identifier") before event.name after :=
    reads_bind.2 ⟨_, middle, hpeek, hbody⟩
  refine reads_bind.2 ⟨event.name, after, hname, reads_located.2 ?_⟩
  rw [kindOfName_name]
  exact reads_pure.2 ⟨rfl, rfl⟩

open Json.TextReader in
theorem steps_of_ne_tag {members : List (String × Json)}
    (h : ∀ entry ∈ members, entry.1 ≠ tagField) (kind : Kind) (read : List (String × Json)) :
    Steps stepMember members (some kind, read) (some kind, members.reverse ++ read) := by
  induction members generalizing read with
  | nil =>
      exact .nil
  | cons entry rest ih =>
      rcases entry with ⟨name, document⟩
      obtain ⟨hname, hrest⟩ := List.forall_mem_cons.1 h
      have hlater := ih hrest ((name, document) :: read)
      rw [List.append_cons, ← List.reverse_cons] at hlater
      refine .cons (fun {before after} hvalue => ?_) hlater
      obtain ⟨_, middle, hcolon, hvalue⟩ := reads_bind.1 hvalue
      rw [stepMember, if_neg hname]
      exact reads_bind.2 ⟨_, middle, hcolon, reads_bind.2 ⟨document, after, hvalue,
        reads_pure.2 ⟨rfl, rfl⟩⟩⟩

open Json.TextReader in
theorem stands_read {event : HostEvent} (h : event.WellFormed) :
    Stands read event.toJson event := by
  intro before after hvalue
  rw [toJson_eq] at hvalue
  obtain ⟨c, middle, hpeek, rfl, hagain⟩ := reads_value_token hvalue
  obtain ⟨inner, last, hmembers, hbracketed⟩ := reads_value_object hagain
  -- the name of the event is its first field, and no other field is taken for one
  have hsteps : Steps stepMember ((tagField, .string event.name) :: event.entries) (none, [])
      (some event.kind, event.entries.reverse) := by
    have hothers := steps_of_ne_tag (entries_ne_tag event) event.kind []
    rw [List.append_nil] at hothers
    refine .cons (fun {before after} hvalue => ?_) hothers
    obtain ⟨_, middle, hcolon, hvalue⟩ := reads_bind.1 hvalue
    rw [stepMember, if_pos rfl]
    exact reads_bind.2 ⟨_, middle, hcolon, reads_bind.2 ⟨event.kind, after,
      stands_readKind event hvalue, reads_pure.2 ⟨rfl, rfl⟩⟩⟩
  have hread : Reads readMembers inner (event.kind, event.entries) last :=
    reads_bind.2 ⟨_, last, reads_foldMembers hsteps hmembers,
      reads_pure.2 ⟨by rw [List.reverse_reverse], rfl⟩⟩
  refine reads_bind.2 ⟨_, middle, hpeek, reads_bind.2 ⟨(event.kind, event.entries), after,
    hbracketed description hread, reads_bind.2 ⟨(event.kind, .object event.entries), after,
      reads_pure.2 ⟨rfl, rfl⟩, ?_⟩⟩⟩
  dsimp only
  rw [ofContent_entries h]
  exact reads_pure.2 ⟨rfl, rfl⟩

theorem wellFormed_of_ofContent {kind : Kind} {content : Json} {event : HostEvent}
    (h : ofContent kind content = .ok event) : event.WellFormed := by
  cases kind with
  | actionCreated =>
      have hread : actionCreated <$> (ActionEvent.read : TreeReader _) content = .ok event := h
      obtain ⟨own, hown, rfl⟩ := ok_of_map hread
      exact ActionEvent.wellFormed_of_gives (m := TreeReader) ⟨content, hown⟩
  | thngPropertiesChanged =>
      have hread : thngPropertiesChanged <$> (PropertyChangeEvent.read : TreeReader _) content =
          .ok event := h
      obtain ⟨own, hown, rfl⟩ := ok_of_map hread
      exact PropertyChangeEvent.wellFormed_of_gives (m := TreeReader) ⟨content, hown⟩

theorem wellFormed_of_ofJson {value : Json} {event : HostEvent} (h : ofJson value = .ok event) :
    event.WellFormed := by
  unfold ofJson at h
  split at h
  · obtain ⟨found, -, hcontent⟩ := ok_of_bind h
    exact wellFormed_of_ofContent hcontent
  · cases h
  · obtain ⟨kind, -, hcontent⟩ := ok_of_bind h
    exact wellFormed_of_ofContent hcontent
  · cases h

end HostEvent

/-! ## All kinds of events -/

/-- How data are read from texts and values, and written as a value. -/
structure Codec (α : Type) where
  ofText : String → Except Json.Fault α
  ofJson : Json → Except Cause α
  toJson : α → Json

def HostEvent.codec : Codec HostEvent := ⟨ofText, ofJson, toJson⟩

def ActionEvent.codec : Codec ActionEvent := ⟨Json.decode read, (read : TreeReader _), toJson⟩

def PropertyChangeEvent.codec : Codec PropertyChangeEvent :=
  ⟨Json.decode read, (read : TreeReader _), toJson⟩

namespace Codec

variable {α : Type}

/-- Some text or some value is read as these data. -/
def Decodes (codec : Codec α) (data : α) : Prop :=
  (∃ text, codec.ofText text = .ok data) ∨ ∃ value, codec.ofJson value = .ok data

/-- What is written is read as the same data and written in the same way again. -/
structure RoundTrips (codec : Codec α) (data : α) : Prop where
  value : codec.ofJson (codec.toJson data) = .ok data
  /-- A text is one of the written value if it is read as that value. -/
  text : ∀ written, Json.decode Json.TextReader.value written = .ok (codec.toJson data) →
    codec.ofText written = .ok data ∧ codec.toJson <$> codec.ofText written = .ok (codec.toJson data)

theorem roundTrips_of_stands {codec : Codec α} {data : α} {reader : Json.TextReader α}
    (hvalue : codec.ofJson (codec.toJson data) = .ok data)
    (hreader : codec.ofText = Json.decode reader)
    (hstands : Stands reader (codec.toJson data) data) : codec.RoundTrips data := by
  refine ⟨hvalue, fun written hwritten => ?_⟩
  obtain ⟨middle, after, hdocument, hending⟩ := Json.decode_eq_ok_iff.1 hwritten
  have hread : codec.ofText written = .ok data := by
    rw [hreader]
    exact Json.decode_eq_ok_iff.2 ⟨middle, after, hstands hdocument, hending⟩
  exact ⟨hread, congrArg (codec.toJson <$> ·) hread⟩

end Codec

theorem Json.gives_of_decode {α : Type} {reader : Json.TextReader α} {text : String} {answer : α}
    (h : Json.decode reader text = .ok answer) : Gives reader answer := by
  obtain ⟨middle, after, hread, -⟩ := Json.decode_eq_ok_iff.1 h
  exact ⟨_, middle, hread⟩

/-- Every event that can be read is read again where it is written. -/
theorem events_roundTrip :
    (∀ event, HostEvent.codec.Decodes event → HostEvent.codec.RoundTrips event) ∧
      (∀ event, ActionEvent.codec.Decodes event → ActionEvent.codec.RoundTrips event) ∧
      ∀ event, PropertyChangeEvent.codec.Decodes event →
        PropertyChangeEvent.codec.RoundTrips event := by
  -- what is read of a text or a value is well-formed, and that is all that a round trip needs
  refine ⟨fun event decodes => ?_, fun event decodes => ?_, fun event decodes => ?_⟩
  · have h : event.WellFormed := by
      rcases decodes with ⟨text, htext⟩ | ⟨value, hvalue⟩
      · obtain ⟨kind, content, -, hcontent⟩ := HostEvent.ofText_eq_ok_iff.1 htext
        exact HostEvent.wellFormed_of_ofContent hcontent
      · exact HostEvent.wellFormed_of_ofJson hvalue
    exact Codec.roundTrips_of_stands (HostEvent.ofJson_toJson h) rfl (HostEvent.stands_read h)
  · have h : Action.WellFormedFields event.action.fields := by
      rcases decodes with ⟨text, htext⟩ | ⟨value, hvalue⟩
      · exact ActionEvent.wellFormed_of_gives (Json.gives_of_decode htext)
      · exact ActionEvent.wellFormed_of_gives (m := TreeReader) ⟨value, hvalue⟩
    exact Codec.roundTrips_of_stands (ActionEvent.stands_entries (m := TreeReader) h) rfl
      (ActionEvent.stands_entries h)
  · have h : Batch.WellFormed event.changes := by
      rcases decodes with ⟨text, htext⟩ | ⟨value, hvalue⟩
      · exact PropertyChangeEvent.wellFormed_of_gives (Json.gives_of_decode htext)
      · exact PropertyChangeEvent.wellFormed_of_gives (m := TreeReader) ⟨value, hvalue⟩
    exact Codec.roundTrips_of_stands (PropertyChangeEvent.stands_entries (m := TreeReader) h) rfl
      (PropertyChangeEvent.stands_entries h)

namespace RoundTrip

/-- An event whose envelope and records are lists; the key `b` is sent twice. -/
def changesText : String :=
  "[\"thngPropertiesChanged\",[\"T1\"],\x7b\"b\":\x7b\"newValue\":1\x7d,\"a\":[2,null]," ++
    "\"b\":\x7b\"oldValue\":\x7b\"z\":-7,\"y\":[]\x7d\x7d\x7d]"

def changes : PropertyChangeEvent :=
  ⟨"T1", .ofAssignments [
    ("b", ⟨.null, some (.object [("y", .array []), ("z", .ofInt (-7))])⟩),
    ("a", .ofNew (.ofNat 2))]⟩

/-- An action with an entity that is null, and further fields out of order. -/
def actionText : String :=
  "\x7b\"action\":\x7b\"zeta\":true,\"thng\":null,\"type\":\"scans\",\"event\":\x7b\"id\":-1\x7d\x7d\x7d"

def action : ActionEvent :=
  ⟨⟨"scans", none, [("event", .object [("id", .ofInt (-1))]), ("zeta", .bool true)]⟩⟩

end RoundTrip

open RoundTrip in
/-- Lists are written as objects, and everything else as it was kept. -/
theorem RoundTrip.lists_are_read_again :
    HostEvent.ofText changesText = .ok (.thngPropertiesChanged changes) ∧
      HostEvent.ofText (HostEvent.thngPropertiesChanged changes).toJson.compact =
        .ok (.thngPropertiesChanged changes) ∧
      Json.decode ActionEvent.read actionText = .ok action ∧
      Json.decode ActionEvent.read action.toJson.compact = .ok action := by
  have hchanges : HostEvent.ofText changesText = .ok (.thngPropertiesChanged changes) := by
    decide +kernel
  have haction : Json.decode ActionEvent.read actionText = .ok action := by
    decide +kernel
  have hwritten : Json.decode Json.TextReader.value
      (HostEvent.thngPropertiesChanged changes).toJson.compact =
        .ok (HostEvent.thngPropertiesChanged changes).toJson := by
    decide +kernel
  have hplain : Json.decode Json.TextReader.value action.toJson.compact = .ok action.toJson := by
    decide +kernel
  obtain ⟨enveloped, plain, -⟩ := events_roundTrip
  generalize changesText = text at hchanges ⊢
  generalize (HostEvent.thngPropertiesChanged changes).toJson.compact = written at hwritten ⊢
  generalize actionText = plainText at haction ⊢
  generalize action.toJson.compact = plainWritten at hplain ⊢
  have again := enveloped (.thngPropertiesChanged changes) (.inl ⟨text, hchanges⟩)
  have againPlain := plain action (.inl ⟨plainText, haction⟩)
  exact ⟨hchanges, (again.text _ hwritten).1, haction, (againPlain.text _ hplain).1⟩

end EventRules
