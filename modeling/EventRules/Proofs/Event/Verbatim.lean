import EventRules.Event.Encode
import EventRules.Proofs.Decode.Gather
import EventRules.Proofs.Event.Batch
import EventRules.Proofs.Event.Wire
import EventRules.Proofs.Json.Canonical

/-!
# Verbatim — the data of an event are the data that were sent

An action keeps every field of the record that it was read from, and a change keeps its value.  What
is kept is in canonical form, so that equal data are equal values.

* `Action.field?`, `Action.get?_toJson` — the fields of an action, and that they are what is written;
* `Action.field?_of_read`, `Change.newValue_of_read` — that they are what was read;
* `HostEvent.Holds`, `HostEvent.holds_of_ofText` — the same of an event that stands in a text.
-/

namespace EventRules

/-! ## Actions -/

namespace Action

/-- The field of an action under a name.  Where the action is written, the last entry of a name
counts, and the entries that have no place of their own come last. -/
def field? (action : Action) (name : String) : Option Json :=
  action.fields.reverse.lookup name <|>
    (if name = "thng" then action.thng.map .string else none) <|>
    (if name = "type" then some (.string action.type) else none)

/-- The fields of an action are what is written of it. -/
theorem get?_toJson (action : Action) (name : String) :
    action.toJson.canonical.get? name = (action.field? name).map Json.canonical := by
  rcases action with ⟨type, thng, fields⟩
  rw [toJson, Json.get?_canonical_object, field?, List.reverse_append, List.lookup_append]
  -- what is written last is looked at first: the other fields, the entity, the type
  cases fields.reverse.lookup name with
  | some value =>
      rfl
  | none =>
      cases thng with
      | none =>
          have hwritten : [("type", Json.string type)].lookup name =
              if name = "type" then some (.string type) else none := lookup_cons_ite _ _ _ _
          simp only [Option.map_none, Option.toList_none, List.append_nil, List.reverse_singleton,
            Option.none_or, hwritten, ite_self]
          split <;> rfl
      | some thng =>
          have hwritten : [("thng", Json.string thng), ("type", Json.string type)].lookup name =
              if name = "thng" then some (.string thng)
              else if name = "type" then some (.string type) else none := by
            rw [lookup_cons_ite, lookup_cons_ite]
            rfl
          have hreverse : ([("type", Json.string type)] ++ [("thng", Json.string thng)]).reverse =
              [("thng", Json.string thng), ("type", Json.string type)] := rfl
          simp only [Option.map_some, Option.toList_some, hreverse, Option.none_or, hwritten]
          split
          · rfl
          · split <;> rfl

/-- What has been gathered of an action, along the members of its record. -/
structure Draft.Holds (read : List (String × Json)) (draft : Draft) : Prop where
  sorted : Fields.Sorted draft.fields
  known : draft.fields.lookup "type" = none ∧ draft.fields.lookup "thng" = none
  type : read.reverse.lookup "type" = draft.type.map .string
  thng : read.reverse.lookup "thng" = draft.thng.map fun thng => (thng.map Json.string).getD .null
  others : ∀ name, name ≠ "type" → name ≠ "thng" →
    draft.fields.lookup name = (read.reverse.lookup name).map Json.canonical

theorem Draft.holds_start : Draft.Holds [] ⟨none, none, []⟩ where
  sorted := List.Pairwise.nil
  known := ⟨rfl, rfl⟩
  type := rfl
  thng := rfl
  others := fun _ _ _ => rfl

namespace Draft.Holds

variable {read : List (String × Json)} {draft : Draft}

theorem readType (holds : draft.Holds read) (type : String) :
    Draft.Holds (read ++ [("type", .string type)]) { draft with type := some type } where
  sorted := holds.sorted
  known := holds.known
  type := by
    rw [lookup_reverse_concat, if_pos rfl]
    rfl
  thng := by
    rw [lookup_reverse_concat, if_neg (by decide), holds.thng]
  others := by
    intro name htype hthng
    rw [lookup_reverse_concat, if_neg htype, ← holds.others name htype hthng]

theorem readThng (holds : draft.Holds read) {value : Json} {thng : Option String}
    (hvalue : value = (thng.map Json.string).getD .null) :
    Draft.Holds (read ++ [("thng", value)]) { draft with thng := some thng } where
  sorted := holds.sorted
  known := holds.known
  type := by
    rw [lookup_reverse_concat, if_neg (by decide), holds.type]
  thng := by
    rw [lookup_reverse_concat, if_pos rfl, hvalue]
    rfl
  others := by
    intro name htype hthng
    rw [lookup_reverse_concat, if_neg hthng, ← holds.others name htype hthng]

theorem readOther (holds : draft.Holds read) {name : String} (htype : name ≠ "type")
    (hthng : name ≠ "thng") (value : Json) :
    Draft.Holds (read ++ [(name, value)])
      { draft with fields := draft.fields.insert name value.canonical } where
  sorted := Fields.sorted_insert holds.sorted
  known := by
    rw [Fields.lookup_insert, if_neg htype.symm, Fields.lookup_insert, if_neg hthng.symm]
    exact holds.known
  type := by
    rw [lookup_reverse_concat, if_neg htype.symm, holds.type]
  thng := by
    rw [lookup_reverse_concat, if_neg hthng.symm, holds.thng]
  others := by
    intro other hothertype hotherthng
    rw [lookup_reverse_concat, Fields.lookup_insert]
    split
    · rfl
    · exact holds.others other hothertype hotherthng

end Draft.Holds

theorem field?_eq_none {name : String} (htype : name ≠ "type") (hthng : name ≠ "thng") :
    (record (m := TreeReader)).field? name = none := by
  simp [Record.field?, record, htype, hthng]

theorem holds_of_members {entries : List (String × Json)} {draft : Draft}
    (h : TreeReader.members record entries ⟨none, none, []⟩ = .ok draft) : draft.Holds entries := by
  -- along the members: the type and the entity are fields of their own, all others are kept
  refine TreeReader.members_induction (P := Draft.Holds) ?_ ?_ ?_ [] h Draft.holds_start
  · intro read name value field acc next hfield hset hacc hread
    by_cases htype : name = "type"
    · subst htype
      cases hfield
      obtain ⟨type, htext, hnext⟩ := ok_of_bind hread
      cases hnext
      rw [TreeReader.text_eq_ok htext]
      exact hacc.readType type
    · by_cases hthng : name = "thng"
      · subst hthng
        cases hfield
        obtain ⟨thng, htext, hnext⟩ := ok_of_bind hread
        cases hnext
        exact hacc.readThng (TreeReader.optional_text_eq_ok htext)
      · rw [field?_eq_none htype hthng] at hfield
        cases hfield
  · intro read name value acc hfield hothers hacc
    cases hothers
  · intro read name value acc next keep hfield hothers hacc hread
    cases hothers
    cases hread
    refine hacc.readOther ?_ ?_ value
    · rintro rfl
      cases hfield
    · rintro rfl
      cases hfield

/-- An action has the fields of its record, in canonical form. -/
theorem holds_of_read {value : Json} {action : Action}
    (h : (read : TreeReader Action) value = .ok action) :
    ∃ (entries : _) (draft : Draft), value = .object entries ∧ draft.Holds entries ∧
      draft.type = some action.type ∧ action.thng = draft.thng.join ∧
      ∀ name, action.fields.reverse.lookup name = draft.fields.lookup name := by
  cases value with
  | object entries =>
      obtain ⟨draft, hmembers, hfinish⟩ := ok_of_bind h
      obtain ⟨type, htype, haction⟩ := ok_of_bind hfinish
      cases haction
      have holds := holds_of_members hmembers
      refine ⟨entries, draft, rfl, holds, ?_, rfl, fun name => ?_⟩
      · cases hfound : draft.type with
        | none =>
            rw [hfound] at htype
            cases htype
        | some own =>
            rw [hfound] at htype
            cases htype
            rfl
      · rw [← Fields.lookup_ofList, Fields.ofList_of_sorted holds.sorted]
  | _ =>
      cases h

/-- An action has the fields of the record that it was read from; an entity that is null is none. -/
theorem field?_of_read {value : Json} {action : Action}
    (h : (read : TreeReader Action) value = .ok action) {name : String}
    (hthng : name = "thng" → action.thng ≠ none) :
    action.field? name = value.canonical.get? name := by
  obtain ⟨entries, draft, rfl, holds, htype, hown, hfields⟩ := holds_of_read h
  rw [Json.get?_canonical_object, field?, hfields]
  by_cases hkind : name = "type"
  · subst hkind
    rw [holds.known.1, holds.type, htype]
    rfl
  · by_cases hentity : name = "thng"
    · subst hentity
      -- an entity that was sent as null is no field of the action, which is excluded
      rw [holds.known.2, holds.thng, hown]
      have hsome := hthng rfl
      rw [hown] at hsome
      rcases hdraft : draft.thng with _ | _ | thng
      · rw [hdraft] at hsome
        exact absurd rfl hsome
      · rw [hdraft] at hsome
        exact absurd rfl hsome
      · rfl
    · rw [holds.others name hkind hentity, if_neg hkind, if_neg hentity]
      simp

end Action

/-! ## Changes -/

/-- A change sets the value that was sent; one that was not sent is null. -/
theorem Change.newValue_of_read {value : Json} {change : Change}
    (h : (read : TreeReader Change) value = .ok change) :
    change.newValue = ((value.sent? "newValue" 0).map Json.canonical).getD .null := by
  have hgathered := TreeReader.record_sent (r := record)
    (P := fun sent (draft : Draft) => draft.newValue = sent.map Json.canonical)
    rfl (List.nil_append _).symm rfl ?_ ?_ rfl h
  · obtain ⟨draft, hdraft, hfinish⟩ := hgathered
    cases hfinish
    exact congrArg (·.getD .null) hdraft
  · intro other hother
    cases List.mem_singleton.1 hother
    refine ⟨by decide, fun sent acc value next hacc hread => ?_⟩
    obtain ⟨found, -, hnext⟩ := ok_of_bind hread
    cases hnext
    exact hacc
  · intro sent acc value next _ hread
    cases hread
    rfl

/-- The changes of a batch are the changes that were sent last for their keys. -/
theorem Batch.change_of_read {value : Json} {batch : Batch}
    (h : (read : TreeReader Batch) value = .ok batch) :
    ∃ members, value = .object members ∧ ∀ key change, (key, change) ∈ batch.entries →
      ∃ sent, members.reverse.lookup key = some sent ∧
        (Change.read : TreeReader Change) sent = .ok change := by
  have hentries : Batch.ofAssignments <$> TreeReader.entries Change.read value = .ok batch := h
  cases value with
  | object members =>
      obtain ⟨assignments, hmembers, rfl⟩ := ok_of_map hentries
      refine ⟨members, rfl, fun key change hchange => ?_⟩
      have hread : List.Forall₂ (fun (member : String × Json) (entry : String × Change) =>
          member.1 = entry.1 ∧ (Change.read : TreeReader Change) member.2 = .ok entry.2)
          members assignments := by
        refine (forall₂_of_mapM hmembers).imp ?_
        rintro ⟨name, sent⟩ ⟨own, change⟩ hentry
        obtain ⟨found, hfound, hsame⟩ := ok_of_bind hentry
        cases hsame
        exact ⟨rfl, hfound⟩
      exact lookup_of_forall₂
        (R := fun sent change => (Change.read : TreeReader Change) sent = .ok change)
        (List.forall₂_reverse_iff.2 hread) (mem_ofAssignments_iff.1 hchange)
  | _ =>
      cases hentries

/-! ## Events -/

/-- An event holds the data that were sent: the fields of its record, or the values of its changes. -/
def HostEvent.Holds (content : Json) : HostEvent → Prop
  | .actionCreated event =>
      ∃ record, content.sent? "action" 0 = some record ∧
        ∀ name, (name = "thng" → event.action.thng ≠ none) →
          event.action.field? name = record.canonical.get? name
  | .thngPropertiesChanged event =>
      ∃ members, content.sent? "changes" 1 = some (.object members) ∧
        ∀ key change, (key, change) ∈ event.changes.entries →
          ∃ sent, members.reverse.lookup key = some sent ∧
            change.newValue = ((sent.sent? "newValue" 0).map Json.canonical).getD .null

theorem ActionEvent.action_of_read {value : Json} {event : ActionEvent}
    (h : (read : TreeReader ActionEvent) value = .ok event) :
    ∃ sent, value.sent? "action" 0 = some sent ∧
      (Action.read : TreeReader Action) sent = .ok event.action := by
  have hgathered := TreeReader.record_sent
    (P := fun sent (draft : Option Action) => ∀ action ∈ draft, ∃ own, sent = some own ∧
      (Action.read : TreeReader Action) own = .ok action)
    rfl (List.nil_append _).symm rfl (by simp) ?_ (by simp) h
  · obtain ⟨draft, hdraft, hfinish⟩ := hgathered
    cases draft with
    | none =>
        cases hfinish
    | some action =>
        cases hfinish
        exact hdraft action rfl
  · intro sent acc value next _ hread
    have hsome : some <$> (Action.read : TreeReader Action) value = .ok next := hread
    obtain ⟨action, haction, rfl⟩ := ok_of_map hsome
    rintro found ⟨⟩
    exact ⟨value, rfl, haction⟩

theorem PropertyChangeEvent.changes_of_read {value : Json} {event : PropertyChangeEvent}
    (h : (read : TreeReader PropertyChangeEvent) value = .ok event) :
    ∃ sent, value.sent? "changes" 1 = some sent ∧
      (Batch.read : TreeReader Batch) sent = .ok event.changes := by
  have hgathered := TreeReader.record_sent (r := record)
    (P := fun sent (draft : Draft) => ∀ batch ∈ draft.changes, ∃ own, sent = some own ∧
      (Batch.read : TreeReader Batch) own = .ok batch)
    rfl (show record.fields = [_] ++ _ :: [] from rfl) rfl ?_ ?_ (by simp [record]) h
  · obtain ⟨draft, hdraft, hfinish⟩ := hgathered
    obtain ⟨thng, -, hothers⟩ := ok_of_bind hfinish
    obtain ⟨batch, hbatch, hevent⟩ := ok_of_bind hothers
    cases hevent
    cases hown : draft.changes with
    | none =>
        rw [hown] at hbatch
        cases hbatch
    | some found =>
        rw [hown] at hbatch
        cases hbatch
        exact hdraft batch hown
  · intro other hother
    cases List.mem_singleton.1 hother
    refine ⟨by decide, fun sent acc value next hacc hread => ?_⟩
    obtain ⟨thng, -, hnext⟩ := ok_of_bind hread
    cases hnext
    exact hacc
  · intro sent acc value next _ hread
    obtain ⟨batch, hbatch, hnext⟩ := ok_of_bind hread
    cases hnext
    rintro found ⟨⟩
    exact ⟨value, rfl, hbatch⟩

namespace HostEvent

theorem holds_of_ofContent {kind : Kind} {content : Json} {event : HostEvent}
    (h : ofContent kind content = .ok event) : event.Holds content := by
  cases kind with
  | actionCreated =>
      have hread : actionCreated <$> (ActionEvent.read : TreeReader ActionEvent) content =
          .ok event := h
      obtain ⟨found, hfound, rfl⟩ := ok_of_map hread
      obtain ⟨record, hrecord, haction⟩ := ActionEvent.action_of_read hfound
      exact ⟨record, hrecord, fun name hthng => Action.field?_of_read haction hthng⟩
  | thngPropertiesChanged =>
      have hread : thngPropertiesChanged <$>
          (PropertyChangeEvent.read : TreeReader PropertyChangeEvent) content = .ok event := h
      obtain ⟨found, hfound, rfl⟩ := ok_of_map hread
      obtain ⟨sent, hsent, hbatch⟩ := PropertyChangeEvent.changes_of_read hfound
      obtain ⟨members, rfl, hchanges⟩ := Batch.change_of_read hbatch
      refine ⟨members, hsent, fun key change hchange => ?_⟩
      obtain ⟨own, hown, hchanged⟩ := hchanges key change hchange
      exact ⟨own, hown, Change.newValue_of_read hchanged⟩

/-- An event that stands in a text holds the data that stand there. -/
theorem holds_of_ofText {text : String} {event : HostEvent} (h : ofText text = .ok event) :
    ∃ kind content, Json.decode wireContent text = .ok (kind, content) ∧ event.Holds content := by
  obtain ⟨kind, content, hcontent, hevent⟩ := ofText_eq_ok_iff.1 h
  exact ⟨kind, content, hcontent, holds_of_ofContent hevent⟩

end HostEvent
end EventRules
