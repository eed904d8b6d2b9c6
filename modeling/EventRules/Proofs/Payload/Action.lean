import EventRules.Payload.Classify
import EventRules.Proofs.Decode.Lawful
import EventRules.Proofs.Json.Place

/-!
# Action — the payload of an action is what was sent of it

An action payload has three fields of its own and keeps every other entry.  The two optional ones may
be left out or sent as null, which is the same.

* `ActionPayload.Draft.Holds` — what has been gathered along the members of an object;
* `ActionPayload.Reads` — a payload and the value that it was read from;
* `ActionPayload.ofJson_eq_ok_iff` — that this is what reading comes to.
-/

namespace EventRules

theorem Json.exists_object_of_get? {value own : Json} {name : String}
    (h : value.get? name = some own) : ∃ entries, value = .object entries := by
  cases value with
  | object entries =>
      exact ⟨entries, rfl⟩
  | _ =>
      cases h

/-- The datum of an object under a name; null is no datum. -/
def Json.given? (value : Json) (name : String) : Option Json :=
  (value.get? name).filter fun own => own ≠ .null

theorem Json.given?_of_ne_null {value own : Json} {name : String} (h : value.get? name = some own)
    (hne : own ≠ .null) : value.given? name = some own := by
  simp [given?, h, hne]

/-! ## Members one after the other -/

namespace TreeReader

variable {σ α : Type} {r : Record TreeReader σ α}

theorem members_append (front rest : List (String × Json)) (acc : σ) :
    members r (front ++ rest) acc = members r front acc >>= members r rest := by
  induction front generalizing acc with
  | nil =>
      rfl
  | cons first front ih =>
      rcases first with ⟨name, value⟩
      rw [List.cons_append, members, members]
      split
      · split
        · rfl
        · simp only [ih, bind_assoc]
      · split
        · exact ih acc
        · simp only [ih, bind_assoc]

/-- A field that has not been read yet is read from its member. -/
theorem members_known {name : String} {value : Json} {field : Field TreeReader σ} {acc : σ}
    (hfield : r.field? name = some field) (hset : field.isSet acc = false) :
    members r [(name, value)] acc = field.read acc value := by
  simp only [members, hfield, hset, Bool.false_eq_true, if_false]
  exact bind_pure (field.read acc value)

theorem members_kept {name : String} {value : Json} {keep : String → σ → TreeReader σ} {acc : σ}
    (hfield : r.field? name = none) (hothers : r.others = .kept keep) :
    members r [(name, value)] acc = keep name acc value := by
  simp only [members, hfield, hothers]
  exact bind_pure (keep name acc value)

theorem optional_text_eq_ok_iff {value : Json} {found : Option String} :
    optional text value = .ok found ↔ value = (found.map Json.string).getD .null := by
  refine ⟨optional_text_eq_ok, ?_⟩
  rintro rfl
  cases found <;> rfl

end TreeReader

namespace ActionPayload

/-! ## Fields -/

/-- The names of the fields that are not kept as they are. -/
def ownNames : List String := ["type", "thngId", "customFields"]

theorem mem_ownNames {name : String} :
    name ∈ ownNames ↔ name = "type" ∨ name = "thngId" ∨ name = "customFields" := by
  simp [ownNames]

theorem ne_of_not_mem_ownNames {name : String} (h : name ∉ ownNames) :
    name ≠ "type" ∧ name ≠ "thngId" ∧ name ≠ "customFields" := by
  simpa [mem_ownNames] using h

theorem field?_eq_none {name : String} (h : name ∉ ownNames) :
    (record (m := TreeReader)).field? name = none := by
  simp [Record.field?, record, ne_of_not_mem_ownNames h]

theorem entries_json (members : List (String × Json)) :
    (TreeReader.entries Source.json : TreeReader _) (.object members) =
      .ok (Json.canonicalEntries members) := by
  refine mapM_of_forall₂ ?_
  induction members with
  | nil =>
      exact .nil
  | cons first rest ih =>
      exact .cons rfl ih

theorem readCustomFields_eq_ok_iff {value : Json} {found : Option (Fields Json)} :
    (readCustomFields : TreeReader _) value = .ok found ↔
      value.canonical = (found.map Json.object).getD .null := by
  cases value with
  | null =>
      have hread : (readCustomFields : TreeReader _) .null = .ok none := rfl
      rw [hread]
      cases found <;> simp [Json.canonical]
  | object members =>
      have hread : (readCustomFields : TreeReader _) (.object members) =
          .ok (some (Fields.ofList (Json.canonicalEntries members))) := by
        show some <$> (Fields.ofList <$> TreeReader.entries Source.json (.object members)) = _
        rw [entries_json]
        rfl
      rw [hread]
      cases found <;> simp [Json.canonical]
  | _ =>
      constructor
      · intro h
        cases h
      · intro h
        cases found <;> cases h

/-! ## What has been gathered -/

namespace Draft

/-- What was sent for a field, as far as it has been read. -/
def sent? (draft : Draft) (name : String) : Option Json :=
  if name = "type" then draft.type.map .string
  else if name = "thngId" then draft.thngId.map fun own => (own.map Json.string).getD .null
  else if name = "customFields" then
    draft.customFields.map fun own => (own.map Json.object).getD .null
  else draft.extra.lookup name

theorem sent?_of_not_mem {draft : Draft} {name : String} (h : name ∉ ownNames) :
    draft.sent? name = draft.extra.lookup name := by
  obtain ⟨htype, hthngId, hcustomFields⟩ := ne_of_not_mem_ownNames h
  rw [sent?, if_neg htype, if_neg hthngId, if_neg hcustomFields]

/-- What has been gathered along the members of an object. -/
structure Holds (read : List (String × Json)) (draft : Draft) : Prop where
  sorted : Fields.Sorted draft.extra
  others : ∀ name ∈ ownNames, draft.extra.lookup name = none
  sent : ∀ name, draft.sent? name = (read.reverse.lookup name).map Json.canonical

theorem holds_start : Holds [] ⟨none, none, none, []⟩ where
  sorted := List.Pairwise.nil
  others := fun _ _ => rfl
  sent := by simp [sent?]

/-- A further member is held if nothing else that has been gathered changes. -/
theorem Holds.concat {read : List (String × Json)} {draft next : Draft} (holds : draft.Holds read)
    {name : String} {value : Json} (sorted : Fields.Sorted next.extra)
    (others : ∀ name ∈ ownNames, next.extra.lookup name = none)
    (own : next.sent? name = some value.canonical)
    (same : ∀ other, other ≠ name → next.sent? other = draft.sent? other) :
    next.Holds (read ++ [(name, value)]) where
  sorted := sorted
  others := others
  sent := by
    intro other
    rw [lookup_reverse_concat]
    by_cases h : other = name
    · rw [if_pos h, h, own]
      rfl
    · rw [if_neg h, same other h, holds.sent]

/-- An entry that is no field of its own is kept. -/
theorem Holds.keep {read : List (String × Json)} {draft : Draft} (holds : draft.Holds read)
    {name : String} (h : name ∉ ownNames) (value : Json) :
    Holds (read ++ [(name, value)])
      { draft with extra := draft.extra.insert name value.canonical } := by
  refine holds.concat (Fields.sorted_insert holds.sorted) ?_ ?_ ?_
  · intro own hown
    rw [Fields.lookup_insert, if_neg (ne_of_mem_of_not_mem hown h)]
    exact holds.others own hown
  · rw [sent?_of_not_mem h, Fields.lookup_insert, if_pos rfl]
  · intro other hne
    by_cases hown : other ∈ ownNames
    · rcases mem_ownNames.1 hown with rfl | rfl | rfl <;> rfl
    · rw [sent?_of_not_mem hown, sent?_of_not_mem hown, Fields.lookup_insert, if_neg hne]

end Draft

theorem holds_of_members {entries : List (String × Json)} {draft : Draft}
    (h : TreeReader.members record entries ⟨none, none, none, []⟩ = .ok draft) :
    draft.Holds entries := by
  refine TreeReader.members_induction (P := Draft.Holds) ?known ?ignored ?kept [] h
    Draft.holds_start
  case known =>
    intro read name value field acc next hfield hset hacc hread
    by_cases hown : name ∈ ownNames
    · rcases mem_ownNames.1 hown with rfl | rfl | rfl
      · cases hfield
        obtain ⟨type, htext, hnext⟩ := ok_of_bind hread
        cases hnext
        cases TreeReader.text_eq_ok htext
        exact hacc.concat hacc.sorted hacc.others rfl fun other hne => by simp [Draft.sent?, hne]
      · cases hfield
        obtain ⟨own, htext, hnext⟩ := ok_of_bind hread
        cases hnext
        have hvalue := TreeReader.optional_text_eq_ok_iff.1 htext
        refine hacc.concat hacc.sorted hacc.others ?_ fun other hne => by simp [Draft.sent?, hne]
        rw [hvalue]
        cases own <;> rfl
      · cases hfield
        obtain ⟨own, hfields, hnext⟩ := ok_of_bind hread
        cases hnext
        refine hacc.concat hacc.sorted hacc.others ?_ fun other hne => by simp [Draft.sent?, hne]
        rw [readCustomFields_eq_ok_iff.1 hfields]
        rfl
    · rw [field?_eq_none hown] at hfield
      cases hfield
  case ignored =>
    intro read name value acc hfield hothers hacc
    cases hothers
  case kept =>
    intro read name value acc next keep hfield hothers hacc hread
    cases hothers
    cases hread
    have hother : name ∉ ownNames := by
      intro hown
      rcases mem_ownNames.1 hown with rfl | rfl | rfl <;> cases hfield
    exact hacc.keep hother value

/-! ## Members that can be read -/

/-- A member that an action payload can have. -/
structure Fits (name : String) (value : Json) : Prop where
  type : name = "type" → ∃ s, value = .string s
  thngId : name = "thngId" → value = .null ∨ ∃ s, value = .string s
  customFields : name = "customFields" → value = .null ∨ ∃ fields, value = .object fields

/-- A member under a name that has not been read yet can be read if it fits. -/
theorem exists_member {read : List (String × Json)} {draft : Draft} (holds : draft.Holds read)
    {name : String} {value : Json} (new : read.reverse.lookup name = none) (fits : Fits name value) :
    ∃ next, TreeReader.members record [(name, value)] draft = .ok next := by
  have hunset : draft.sent? name = none := by
    rw [holds.sent, new]
    rfl
  by_cases hown : name ∈ ownNames
  · rcases mem_ownNames.1 hown with rfl | rfl | rfl
    · obtain ⟨s, rfl⟩ := fits.type rfl
      have hset : draft.type = none := by simpa [Draft.sent?] using hunset
      rw [TreeReader.members_known rfl (by simp [hset])]
      exact ⟨_, rfl⟩
    · have hset : draft.thngId = none := by simpa [Draft.sent?] using hunset
      rw [TreeReader.members_known rfl (by simp [hset])]
      rcases fits.thngId rfl with rfl | ⟨s, rfl⟩
      · exact ⟨_, rfl⟩
      · exact ⟨_, rfl⟩
    · have hset : draft.customFields = none := by simpa [Draft.sent?] using hunset
      rw [TreeReader.members_known rfl (by simp [hset])]
      rcases fits.customFields rfl with rfl | ⟨fields, rfl⟩
      · exact ⟨_, rfl⟩
      · have hread := readCustomFields_eq_ok_iff.2
          (show (Json.object fields).canonical = ((some _).map Json.object).getD .null from rfl)
        exact ⟨_, LawfulSource.stands_bind_pure (m := TreeReader)
          (fun own => { draft with customFields := some own }) hread⟩
  · rw [TreeReader.members_kept (field?_eq_none hown) rfl]
    exact ⟨_, rfl⟩

/-- Members of different names can be read if each of them fits. -/
theorem exists_members {entries : List (String × Json)} (nodup : (entries.map Prod.fst).Nodup)
    (fits : ∀ entry ∈ entries, Fits entry.1 entry.2) :
    ∃ draft, TreeReader.members record entries ⟨none, none, none, []⟩ = .ok draft := by
  -- the last member is read once the others have been
  induction entries using List.reverseRecOn with
  | nil =>
      exact ⟨_, rfl⟩
  | append_singleton earlier last ih =>
      rcases last with ⟨name, value⟩
      rw [List.map_append, List.nodup_append] at nodup
      obtain ⟨draft, hdraft⟩ := ih nodup.1 fun entry hentry =>
        fits entry (List.mem_append_left _ hentry)
      have hnew : earlier.reverse.lookup name = none := by
        rw [lookup_eq_none_iff_not_mem, List.map_reverse, List.mem_reverse]
        exact fun hmem => nodup.2.2 name hmem name (List.mem_singleton_self _) rfl
      obtain ⟨next, hnext⟩ := exists_member (holds_of_members hdraft) hnew
        (fits (name, value) (List.mem_append_right _ (List.mem_singleton_self _)))
      refine ⟨next, ?_⟩
      rw [TreeReader.members_append, hdraft]
      exact hnext

/-- The last entry of a name is its only one. -/
theorem lookup_reverse_of_sorted {entries : List (String × Json)} (sorted : Fields.Sorted entries)
    (name : String) : entries.reverse.lookup name = entries.lookup name := by
  rw [← Fields.lookup_ofList, Fields.ofList_of_sorted sorted]

/-- An object whose own fields are well-typed can be read if it has a type. -/
theorem exists_ofJson {value : Json} (canonical : value.Canonical)
    (type : ∃ s, value.get? "type" = some (.string s))
    (thngId : ∀ own, value.get? "thngId" = some own → own = .null ∨ ∃ s, own = .string s)
    (customFields : ∀ own, value.get? "customFields" = some own →
      own = .null ∨ ∃ fields, own = .object fields) :
    ∃ payload, ofJson value = .ok payload := by
  obtain ⟨s, htype⟩ := type
  obtain ⟨entries, rfl⟩ := Json.exists_object_of_get? htype
  have nodup := Fields.nodup_of_sorted canonical.1
  have fits : ∀ entry ∈ entries, Fits entry.1 entry.2 := by
    rintro ⟨name, value⟩ hentry
    have hget : (Json.object entries).get? name = some value := (mem_iff_lookup nodup).1 hentry
    refine ⟨?_, ?_, ?_⟩
    · rintro rfl
      exact ⟨s, Option.some.inj (hget.symm.trans htype)⟩
    · rintro rfl
      exact thngId value hget
    · rintro rfl
      exact customFields value hget
  obtain ⟨draft, hmembers⟩ := exists_members nodup fits
  have hread : ofJson (.object entries) = (record (m := TreeReader)).finish draft :=
    congrArg (· >>= (record (m := TreeReader)).finish) hmembers
  have hsent : draft.type.map Json.string = some (.string s) := by
    have hfield := (holds_of_members hmembers).sent "type"
    rw [lookup_reverse_of_sorted canonical.1] at hfield
    exact hfield.trans (congrArg (Option.map Json.canonical) htype)
  obtain ⟨own, hown, -⟩ := Option.map_eq_some_iff.1 hsent
  refine ⟨⟨own, draft.thngId.join, draft.customFields.join, draft.extra⟩, ?_⟩
  rw [hread]
  show (Record.required "type" draft.type >>= _) = _
  rw [hown]
  rfl

/-! ## Payloads -/

/-- A payload is what was sent, where an optional field that is null counts as left out. -/
structure Reads (payload : ActionPayload) (value : Json) : Prop where
  type : value.get? "type" = some (.string payload.type)
  thngId : value.given? "thngId" = payload.thngId.map .string
  customFields : value.given? "customFields" = payload.customFields.map .object
  sorted : Fields.Sorted payload.extra
  extra : ∀ name, payload.extra.lookup name = if name ∈ ownNames then none else value.get? name

theorem Reads.thngId_shape {payload : ActionPayload} {value : Json} (reads : payload.Reads value)
    (own : Json) (h : value.get? "thngId" = some own) : own = .null ∨ ∃ s, own = .string s := by
  refine or_iff_not_imp_left.2 fun hne => ?_
  obtain ⟨s, -, hs⟩ := Option.map_eq_some_iff.1 (reads.thngId.symm.trans (Json.given?_of_ne_null h hne))
  exact ⟨s, hs.symm⟩

theorem Reads.customFields_shape {payload : ActionPayload} {value : Json}
    (reads : payload.Reads value) (own : Json) (h : value.get? "customFields" = some own) :
    own = .null ∨ ∃ fields, own = .object fields := by
  refine or_iff_not_imp_left.2 fun hne => ?_
  obtain ⟨fields, -, hfields⟩ :=
    Option.map_eq_some_iff.1 (reads.customFields.symm.trans (Json.given?_of_ne_null h hne))
  exact ⟨fields, hfields.symm⟩

/-- A value is read as one payload. -/
theorem Reads.unique {payload other : ActionPayload} {value : Json} (reads : payload.Reads value)
    (others : other.Reads value) : payload = other := by
  have htype := reads.type.symm.trans others.type
  have hthngId := Option.map_injective (fun _ _ => Json.string.inj)
    (reads.thngId.symm.trans others.thngId)
  have hcustomFields := Option.map_injective (fun _ _ => Json.object.inj)
    (reads.customFields.symm.trans others.customFields)
  have hextra := Fields.eq_of_lookup_eq reads.sorted others.sorted fun name =>
    (reads.extra name).trans (others.extra name).symm
  rcases payload with ⟨type, thngId, customFields, extra⟩
  rcases other with ⟨type', thngId', customFields', extra'⟩
  cases htype
  cases hthngId
  cases hcustomFields
  cases hextra
  rfl

theorem map_canonical_get? {value : Json} (canonical : value.Canonical) (name : String) :
    (value.get? name).map Json.canonical = value.get? name := by
  cases h : value.get? name with
  | none =>
      rfl
  | some own =>
      have hpart : Json.part? (.name name) value = some own := h
      exact congrArg some (Json.canonical_of_canonical (Json.canonical_part canonical hpart))

theorem reads_of_ofJson {value : Json} {payload : ActionPayload} (canonical : value.Canonical)
    (h : ofJson value = .ok payload) : payload.Reads value := by
  cases value with
  | object entries =>
      obtain ⟨draft, hmembers, hfinish⟩ := ok_of_bind h
      obtain ⟨type, htype, hpayload⟩ := ok_of_bind hfinish
      cases hpayload
      have holds := holds_of_members hmembers
      have hsent : ∀ name, draft.sent? name = (Json.object entries).get? name := by
        intro name
        rw [holds.sent, lookup_reverse_of_sorted canonical.1]
        exact map_canonical_get? canonical name
      refine ⟨?_, ?_, ?_, holds.sorted, ?_⟩
      · rw [← hsent, Draft.sent?, if_pos rfl, Record.eq_some_of_required htype]
        rfl
      · rw [Json.given?, ← hsent, Draft.sent?]
        rcases draft.thngId with _ | _ | own <;> rfl
      · rw [Json.given?, ← hsent, Draft.sent?]
        rcases draft.customFields with _ | _ | own <;> rfl
      · intro name
        split
        · rename_i hown
          exact holds.others name hown
        · rename_i hown
          rw [← hsent, Draft.sent?_of_not_mem hown]
  | _ =>
      cases h

/-- What a value is read as is what it reads, and only a value that reads something is read. -/
theorem ofJson_eq_ok_iff {value : Json} {payload : ActionPayload} (canonical : value.Canonical) :
    ofJson value = .ok payload ↔ payload.Reads value := by
  refine ⟨reads_of_ofJson canonical, fun reads => ?_⟩
  obtain ⟨own, hown⟩ :=
    exists_ofJson canonical ⟨_, reads.type⟩ reads.thngId_shape reads.customFields_shape
  rw [hown, (reads_of_ofJson canonical hown).unique reads]

end ActionPayload
end EventRules
