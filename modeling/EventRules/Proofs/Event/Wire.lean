import EventRules.Event.Decode
import EventRules.Proofs.Decode.Refine

/-!
# Wire — property changes as they stand in a text

The readers below take a text from the front to the back and keep everything in that order, repeated
keys with it.  The events of the domain are these, settled into batches.

* `Json.TextReader.inOrder` — the members of an object, the first one in front;
* `SentEvent` — an event with its changes as they are sent; `SentEvent.settled` — the event it makes;
* `PropertyChangeEvent.decodedFrom_iff` — decoding an event, with or without an envelope, is reading
  what is sent and settling it.
-/

namespace EventRules

/-! ## Objects from the front to the back -/

namespace Json.TextReader

variable {α : Type}

/-- The members that are left: the next one, and then those behind it. -/
def membersInOrder (element : TextReader α) : Nat → Bool → TextReader (List (String × α))
  | 0, _ => return []
  | steps + 1, first => do
      if (← hasName first) then
        let name ← stringBody
        colon
        let x ← element
        let later ← membersInOrder element steps false
        return (name, x) :: later
      else return []

/-- The members of an object, in the order of the text. -/
def inOrder (element : TextReader α) : TextReader (List (String × α)) := do
  membersInOrder element ((← remaining) + 1) true

/-- Reads one member, and puts it in front of those that were read before. -/
def prepend (element : TextReader α) (name : String) (read : List (String × α)) :
    TextReader (List (String × α)) := do
  colon
  let x ← element
  return (name, x) :: read

theorem memberLoop_prepend (element : TextReader α) (steps : Nat) (first : Bool)
    (read : List (String × α)) :
    memberLoop (prepend element) steps first read =
      (fun found => found.reverse ++ read) <$> membersInOrder element steps first := by
  induction steps generalizing first read with
  | zero =>
      rfl
  | succ steps ih =>
      rw [memberLoop, membersInOrder, map_bind]
      refine bind_congr fun named => ?_
      cases named with
      | false =>
          rfl
      | true =>
          simp [prepend, ih]

theorem members_eq_inOrder (element : TextReader α) : members element = inOrder element := by
  have hmembers : members element = List.reverse <$> foldMembers (prepend element) [] := by
    rw [map_eq_pure_bind]
    rfl
  rw [hmembers, foldMembers, map_bind, inOrder]
  refine bind_congr fun left => ?_
  rw [memberLoop_prepend, Functor.map_map]
  simp

/-- A value nested less than `depth` deep, its entries in the order of the text. -/
def wireWithin : (depth : Nat) → TextReader Json
  | 0 => malformedNext .tooDeep
  | depth + 1 => do
      match (← peekToken?) with
      | none => malformedNext .endInValue
      | some '[' =>
          if depth = 0 then malformedNext .tooDeep
          else
            advance
            return .array (← andThen (elements (wireWithin depth) true) closeList)
      | some '\x7b' =>
          if depth = 0 then malformedNext .tooDeep
          else
            advance
            return .object (← andThen (inOrder (wireWithin depth)) closeObject)
      | some c => scalar c

def wireValue : TextReader Json := do wireWithin (← get).depth

theorem value_eq_wireValue : value = wireValue := by
  have hwithin : ∀ depth, valueWithin depth = wireWithin depth := by
    intro depth
    induction depth with
    | zero =>
        rfl
    | succ depth ih =>
        rw [valueWithin, ih, members_eq_inOrder]
        rfl
  simp only [value, wireValue, hwithin]

end Json.TextReader

/-! ## Events as they are sent -/

/-- A property-change event with its changes in the order of the sender, repeated keys included. -/
structure SentEvent where
  thng : String
  changes : List (String × Change)

namespace SentEvent

/-- The event that is made of it. -/
def settled (sent : SentEvent) : PropertyChangeEvent :=
  ⟨sent.thng, Batch.ofAssignments sent.changes⟩

structure Draft where
  thng : Option String
  changes : Option (List (String × Change))

/-- The fields that have been read, settled. -/
def Draft.settled (draft : Draft) : PropertyChangeEvent.Draft :=
  ⟨draft.thng, draft.changes.map Batch.ofAssignments⟩

def record {m : Type → Type} [Source m] (changes : m (List (String × Change))) :
    Record m Draft SentEvent where
  description := "struct PropertyChangeEvent"
  start := ⟨none, none⟩
  fields := [
    { names := ["thng"]
      read := fun draft => do return { draft with thng := some (← readThngRef) }
      isSet := fun draft => draft.thng.isSome
      optional := false },
    { names := ["changes"]
      read := fun draft => do return { draft with changes := some (← changes) }
      isSet := fun draft => draft.changes.isSome
      optional := false }]
  others := .ignored
  finish := fun draft => do
    let thng ← Record.required "thng" draft.thng
    let changes ← Record.required "changes" draft.changes
    return ⟨thng, changes⟩

open Json.TextReader in
/-- The event that stands in a text. -/
def read : Json.TextReader SentEvent :=
  record (bracketed '\x7b' (inOrder Change.read) closeObject "a map") |> Source.record

/-- The event that stands in a value. -/
def ofJson : Json → Except Cause SentEvent :=
  Source.record (m := TreeReader) (record (TreeReader.entries Change.read))

theorem refines {m : Type → Type} [BatchSource m] [LawfulMonad m]
    {changes : m (List (String × Change))} (h : BatchSource.entries Change.read = changes) :
    Record.Refines Draft.settled settled (record changes) (PropertyChangeEvent.record (m := m)) := by
  have hthng : Field.Refines Draft.settled
      { names := ["thng"]
        read := fun draft => do return { draft with thng := some (← readThngRef) }
        isSet := fun draft => draft.thng.isSome
        optional := false : Field m Draft }
      { names := ["thng"]
        read := fun draft => do return { draft with thng := some (← readThngRef) }
        isSet := fun draft => draft.thng.isSome
        optional := false : Field m PropertyChangeEvent.Draft } := by
    refine ⟨rfl, rfl, fun draft => rfl, fun draft => ?_⟩
    simp [Draft.settled]
  have hchanges : Field.Refines Draft.settled
      { names := ["changes"]
        read := fun draft => do return { draft with changes := some (← changes) }
        isSet := fun draft => draft.changes.isSome
        optional := false : Field m Draft }
      { names := ["changes"]
        read := fun draft => do return { draft with changes := some (← Batch.read) }
        isSet := fun draft => draft.changes.isSome
        optional := false : Field m PropertyChangeEvent.Draft } := by
    refine ⟨rfl, rfl, fun draft => ?_, fun draft => ?_⟩
    · exact Option.isSome_map
    · simp [Draft.settled, Batch.read, h]
  refine ⟨rfl, rfl, .cons hthng (.cons hchanges .nil), rfl, rfl, fun draft => ?_⟩
  rcases draft with ⟨_ | thng, _ | sent⟩ <;> rfl

/-- Reading an event from a text is reading what is sent, and settling it. -/
theorem read_eq_settled :
    (PropertyChangeEvent.read : Json.TextReader PropertyChangeEvent) = settled <$> read := by
  have hentries : (BatchSource.entries Change.read : Json.TextReader (List (String × Change))) =
      Json.TextReader.bracketed '\x7b' (Json.TextReader.inOrder Change.read)
        Json.TextReader.closeObject "a map" := by
    rw [← Json.TextReader.members_eq_inOrder]
    rfl
  exact Json.TextReader.record_of_refines (refines hentries)

theorem ofJson_eq_settled (value : Json) :
    (PropertyChangeEvent.read : TreeReader PropertyChangeEvent) value =
      settled <$> ofJson value :=
  congrFun (TreeReader.record_of_refines (refines rfl)) value

end SentEvent

/-! ## Envelopes from the front to the back -/

namespace HostEvent

open Json.TextReader

/-- The members of an envelope that are left: its kind, wherever it stands, and the others. -/
def wireMembers : Nat → Bool → Option Kind → Json.TextReader (Option Kind × List (String × Json))
  | 0, _, kind? => return (kind?, [])
  | steps + 1, first, kind? => do
      if (← hasName first) then
        let name ← stringBody
        if name = tagField then
          if kind?.isSome then fail (.duplicateField tagField)
          else
            colon
            let kind ← readKind
            wireMembers steps false (some kind)
        else
          colon
          let x ← wireValue
          let later ← wireMembers steps false kind?
          return (later.1, (name, x) :: later.2)
      else return (kind?, [])

/-- The kind of an enveloped event, and the rest of the envelope in the order of the text. -/
def wireContent : Json.TextReader (Kind × Json) := do
  match (← peekToken?) with
  | some '[' => do
      let (kind, items) ← bracketed '[' (do
        if (← hasElement true) then
          let kind ← readKind
          let items ← elements wireValue false
          return (kind, items)
        else fail (.missingField tagField)) closeList description
      return (kind, .array items)
  | _ => do
      let (kind, members) ← bracketed '\x7b' (do
        let (kind?, others) ← wireMembers ((← remaining) + 1) true none
        match kind? with
        | some kind => return (kind, others)
        | none => fail (.missingField tagField)) closeObject description
      return (kind, .object members)

/-- Reads one member of an envelope, and keeps it in front of those that were read before. -/
def stepMember (name : String) (acc : Option Kind × List (String × Json)) :
    Json.TextReader (Option Kind × List (String × Json)) := do
  if name = tagField then
    if acc.1.isSome then fail (.duplicateField tagField)
    else
      colon
      return (some (← readKind), acc.2)
  else
    colon
    return (acc.1, (name, ← value) :: acc.2)

theorem memberLoop_stepMember (steps : Nat) (first : Bool) (kind? : Option Kind)
    (read : List (String × Json)) :
    memberLoop stepMember steps first (kind?, read) =
      (fun found => (found.1, found.2.reverse ++ read)) <$> wireMembers steps first kind? := by
  induction steps generalizing first kind? read with
  | zero =>
      rfl
  | succ steps ih =>
      rw [memberLoop, wireMembers, map_bind]
      refine bind_congr fun named => ?_
      cases named with
      | false =>
          rfl
      | true =>
          simp only [if_true, map_bind]
          refine bind_congr fun name => ?_
          rw [stepMember]
          by_cases htag : name = tagField
          · rw [if_pos htag, if_pos htag]
            split
            · rfl
            · simp [ih]
          · rw [if_neg htag, if_neg htag]
            simp [value_eq_wireValue, ih]

theorem readMembers_eq :
    readMembers = (do
      let (kind?, others) ← wireMembers ((← remaining) + 1) true none
      match kind? with
      | some kind => return (kind, others)
      | none => fail (.missingField tagField)) := by
  have hmembers : readMembers = (do
      let (kind?, others) ← foldMembers stepMember (none, [])
      match kind? with
      | some kind => return (kind, others.reverse)
      | none => fail (.missingField tagField)) := rfl
  rw [hmembers, foldMembers, bind_assoc]
  refine bind_congr fun left => ?_
  rw [memberLoop_stepMember, bind_map_left]
  refine bind_congr fun found => ?_
  rcases found with ⟨_ | kind, others⟩
  · rfl
  · simp

/-- Reading an enveloped event is reading its kind and its content, and then the event itself. -/
theorem read_eq_wireContent :
    read = (do
      let found ← wireContent
      answered (ofContent found.1 found.2)) := by
  rw [wireContent, bind_assoc, ← value_eq_wireValue, ← readMembers_eq]
  refine bind_congr fun next => ?_
  -- what follows the two forms of an envelope is the same
  by_cases hnext : next = some '['
  · subst hnext
    simp only [bind_assoc, pure_bind]
    refine bind_congr fun found => ?_
    cases ofContent found.1 (.array found.2) <;> rfl
  · simp only [bind_assoc, pure_bind]
    refine bind_congr fun found => ?_
    cases ofContent found.1 (.object found.2) <;> rfl

/-- A text stands for an event if its content does. -/
theorem ofText_eq_ok_iff {text : String} {event : HostEvent} :
    ofText text = .ok event ↔
      ∃ kind content, Json.decode wireContent text = .ok (kind, content) ∧
        ofContent kind content = .ok event := by
  simp only [ofText, read_eq_wireContent, Json.decode_eq_ok_iff, reads_bind, reads_answered]
  constructor
  · rintro ⟨middle, after, ⟨⟨kind, content⟩, last, hcontent, hevent, rfl⟩, hending⟩
    exact ⟨kind, content, ⟨last, after, hcontent, hending⟩, hevent⟩
  · rintro ⟨kind, content, ⟨middle, after, hcontent, hending⟩, hevent⟩
    exact ⟨middle, after, ⟨(kind, content), middle, hcontent, hevent, rfl⟩, hending⟩

end HostEvent

/-! ## From texts to events -/

/-- How a property-change event is brought by a text. -/
inductive Delivery where
  | plain
  | enveloped
  deriving DecidableEq

/-- A text stands for an event. -/
inductive PropertyChangeEvent.DecodedFrom (text : String) :
    Delivery → PropertyChangeEvent → Prop
  | plain {event : PropertyChangeEvent} :
      Json.decode PropertyChangeEvent.read text = .ok event → DecodedFrom text .plain event
  | enveloped {event : PropertyChangeEvent} :
      HostEvent.ofText text = .ok (.thngPropertiesChanged event) → DecodedFrom text .enveloped event

/-- An event stands in a text as it is sent. -/
inductive SentEvent.StandsIn (text : String) : Delivery → SentEvent → Prop
  | plain {sent : SentEvent} :
      Json.decode SentEvent.read text = .ok sent → StandsIn text .plain sent
  | enveloped {content : Json} {sent : SentEvent} :
      Json.decode HostEvent.wireContent text = .ok (.thngPropertiesChanged, content) →
      SentEvent.ofJson content = .ok sent → StandsIn text .enveloped sent

theorem HostEvent.ofContent_eq_changed_iff {kind : Kind} {content : Json}
    {event : PropertyChangeEvent} :
    ofContent kind content = .ok (.thngPropertiesChanged event) ↔
      kind = .thngPropertiesChanged ∧ ∃ sent, SentEvent.ofJson content = .ok sent ∧
        sent.settled = event := by
  cases kind with
  | actionCreated =>
      cases hread : (ActionEvent.read : TreeReader _) content <;>
        simp [ofContent, hread]
  | thngPropertiesChanged =>
      rw [ofContent, SentEvent.ofJson_eq_settled]
      cases SentEvent.ofJson content <;> simp

/-- Decoding an event is reading what is sent, and settling it. -/
theorem PropertyChangeEvent.decodedFrom_iff {text : String} {delivery : Delivery}
    {event : PropertyChangeEvent} :
    event.DecodedFrom text delivery ↔
      ∃ sent : SentEvent, sent.StandsIn text delivery ∧ sent.settled = event := by
  have hplain : Json.decode PropertyChangeEvent.read text = .ok event ↔
      ∃ sent, Json.decode SentEvent.read text = .ok sent ∧ sent.settled = event := by
    simp only [SentEvent.read_eq_settled, Json.decode_eq_ok_iff, Json.TextReader.reads_map]
    constructor
    · rintro ⟨middle, after, ⟨sent, hread, hsettled⟩, hending⟩
      exact ⟨sent, ⟨middle, after, hread, hending⟩, hsettled⟩
    · rintro ⟨sent, ⟨middle, after, hread, hending⟩, hsettled⟩
      exact ⟨middle, after, ⟨sent, hread, hsettled⟩, hending⟩
  have henveloped : HostEvent.ofText text = .ok (.thngPropertiesChanged event) ↔
      ∃ content sent, Json.decode HostEvent.wireContent text =
          .ok (.thngPropertiesChanged, content) ∧
        SentEvent.ofJson content = .ok sent ∧ sent.settled = event := by
    rw [HostEvent.ofText_eq_ok_iff]
    constructor
    · rintro ⟨kind, content, hcontent, hevent⟩
      obtain ⟨rfl, sent, hsent, hsettled⟩ := HostEvent.ofContent_eq_changed_iff.1 hevent
      exact ⟨content, sent, hcontent, hsent, hsettled⟩
    · rintro ⟨content, sent, hcontent, hsent, hsettled⟩
      exact ⟨.thngPropertiesChanged, content, hcontent,
        HostEvent.ofContent_eq_changed_iff.2 ⟨rfl, sent, hsent, hsettled⟩⟩
  constructor
  · intro h
    cases h with
    | plain hdecode =>
        obtain ⟨sent, hsent, hsettled⟩ := hplain.1 hdecode
        exact ⟨sent, .plain hsent, hsettled⟩
    | enveloped hdecode =>
        obtain ⟨content, sent, hcontent, hsent, hsettled⟩ := henveloped.1 hdecode
        exact ⟨sent, .enveloped hcontent hsent, hsettled⟩
  · rintro ⟨sent, hstands, hsettled⟩
    cases hstands with
    | plain hsent =>
        exact .plain (hplain.2 ⟨sent, hsent, hsettled⟩)
    | enveloped hcontent hsent =>
        exact .enveloped (henveloped.2 ⟨_, sent, hcontent, hsent, hsettled⟩)

end EventRules
