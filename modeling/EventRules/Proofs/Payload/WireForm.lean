import EventRules.Proofs.Payload.Shape

/-!
# WireForm — what is written of a payload

A payload is written as an object with the entries that it was read from.  Optional fields that were
null are left out, and an update of a property keeps nothing but its key and its value.  What is
written is classified as the payload again.

* `Json.withoutNulls` — a value without some of its entries, where they are null;
* `ActionPayload.toJson_of_reads` — what is written of an action;
* `Payload.classify_is_stable` — classifying, writing and classifying again.
-/

namespace EventRules

/-! ## Entries that are null -/

namespace Json

/-- An object without those of the named entries that are null. -/
def withoutNulls (names : List String) : Json → Json
  | .object entries =>
      .object (entries.filter fun entry => !(names.contains entry.1 && entry.2 = .null))
  | other => other

theorem lookup_filter {entries : List (String × Json)} (nodup : (entries.map Prod.fst).Nodup)
    (keep : String × Json → Bool) (name : String) :
    (entries.filter keep).lookup name =
      (entries.lookup name).filter fun value => keep (name, value) := by
  have nodupKept : ((entries.filter keep).map Prod.fst).Nodup :=
    nodup.sublist (List.filter_sublist.map Prod.fst)
  ext value
  rw [← mem_iff_lookup nodupKept, List.mem_filter, mem_iff_lookup nodup, Option.filter_eq_some_iff]

theorem get?_withoutNulls {value : Json} (canonical : value.Canonical) (names : List String)
    (name : String) :
    (value.withoutNulls names).get? name =
      if name ∈ names then value.given? name else value.get? name := by
  cases value with
  | object entries =>
      have hlookup := lookup_filter (Fields.nodup_of_sorted canonical.1)
        (fun entry => !(names.contains entry.1 && entry.2 = .null)) name
      refine hlookup.trans ?_
      show _ = if name ∈ names then (entries.lookup name).filter _ else entries.lookup name
      cases entries.lookup name with
      | none =>
          split <;> rfl
      | some own =>
          by_cases h : name ∈ names <;> simp [h, Option.filter_some]
  | _ =>
      split <;> rfl

theorem given?_withoutNulls {value : Json} (canonical : value.Canonical) (names : List String)
    (name : String) : (value.withoutNulls names).given? name = value.given? name := by
  rw [given?, get?_withoutNulls canonical]
  split
  · rw [given?, Option.filter_filter]
    simp
  · rfl

theorem canonical_withoutNulls {value : Json} (canonical : value.Canonical) (names : List String) :
    (value.withoutNulls names).Canonical := by
  cases value with
  | object entries =>
      refine ⟨canonical.1.filter _, canonicalEntries_iff.2 fun entry hentry => ?_⟩
      exact canonical.2.value (List.mem_of_mem_filter hentry)
  | _ =>
      exact canonical

end Json

/-! ## Actions -/

namespace ActionPayload

/-- The optional fields of an action. -/
def optionalNames : List String := ["thngId", "customFields"]

theorem not_mem_optionalNames {name : String} (h : name ∉ ownNames) : name ∉ optionalNames :=
  fun hmem => h (List.mem_cons_of_mem "type" hmem)

/-- An optional field answers under its own name. -/
theorem lookup_optional {α : Type} (own : String) (f : α → Json) (found : Option α)
    (name : String) :
    (found.map fun value => (own, f value)).toList.reverse.lookup name =
      if name = own then found.map f else none := by
  cases found with
  | none =>
      exact (ite_self none).symm
  | some value =>
      exact lookup_cons_ite own (f value) [] name

/-- What is written of an action under a name. -/
theorem get?_toJson (action : ActionPayload) (name : String) :
    (Payload.action action).toJson.get? name =
      (action.extra.reverse.lookup name).or
        (if name = "type" then some (.string action.type)
        else if name = "thngId" then action.thngId.map .string
        else if name = "customFields" then action.customFields.map .object
        else none) := by
  show (Json.ofEntries action.entries).get? name = _
  have htype : [("type", Json.string action.type)].reverse.lookup name =
      if name = "type" then some (.string action.type) else none :=
    lookup_cons_ite "type" _ [] name
  rw [Json.get?_ofEntries, entries]
  simp only [List.reverse_append, List.lookup_append]
  rw [lookup_optional "thngId", lookup_optional "customFields", htype]
  congr 1
  -- the names differ, so at most one of the three fields answers
  by_cases hcustomFields : name = "customFields"
  · simp [hcustomFields]
  · by_cases hthngId : name = "thngId"
    · simp [hthngId]
    · rw [if_neg hcustomFields, if_neg hthngId]
      rfl

variable {action : ActionPayload} {value : Json}

/-- An action is written as it was read, but for what was null. -/
theorem Reads.get?_toJson (reads : action.Reads value) (name : String) :
    (Payload.action action).toJson.get? name =
      if name ∈ optionalNames then value.given? name else value.get? name := by
  rw [ActionPayload.get?_toJson, lookup_reverse_of_sorted reads.sorted, reads.extra]
  by_cases hown : name ∈ ownNames
  · rw [if_pos hown, Option.none_or]
    rcases mem_ownNames.1 hown with rfl | rfl | rfl
    · exact reads.type.symm
    · exact reads.thngId.symm
    · exact reads.customFields.symm
  · rw [if_neg hown, if_neg (not_mem_optionalNames hown)]
    obtain ⟨htype, hthngId, hcustomFields⟩ := ne_of_not_mem_ownNames hown
    rw [if_neg htype, if_neg hthngId, if_neg hcustomFields, Option.or_none]

/-- An action is written as the value that it was read from, without optional fields that are null. -/
theorem toJson_of_reads (canonical : value.Canonical) (reads : action.Reads value) :
    (Payload.action action).toJson = value.withoutNulls optionalNames := by
  obtain ⟨entries, rfl⟩ := Json.exists_object_of_get? reads.type
  refine congrArg Json.object (Fields.eq_of_lookup_eq (Fields.sorted_ofList _)
    (canonical.1.filter _) fun name => ?_)
  have hboth := (reads.get?_toJson name).trans
    (Json.get?_withoutNulls canonical optionalNames name).symm
  exact hboth

theorem Reads.withoutNulls (canonical : value.Canonical) (reads : action.Reads value) :
    action.Reads (value.withoutNulls optionalNames) where
  type := by
    rw [Json.get?_withoutNulls canonical, if_neg (by decide), reads.type]
  thngId := by
    rw [Json.given?_withoutNulls canonical, reads.thngId]
  customFields := by
    rw [Json.given?_withoutNulls canonical, reads.customFields]
  sorted := reads.sorted
  extra := by
    intro name
    rw [reads.extra]
    split
    · rfl
    · rename_i hown
      rw [Json.get?_withoutNulls canonical, if_neg (not_mem_optionalNames hown)]

end ActionPayload

/-! ## Payloads -/

namespace Payload

theorem toJson_property (update : PropertyPayload) :
    (property update).toJson = .object [("key", .string update.key), ("value", update.value)] := by
  refine congrArg Json.object (Fields.ofList_of_sorted ?_)
  have hless : "key" < "value" := by decide
  exact List.pairwise_pair.2 hless

/-- What is written of a payload is classified as the payload.  It holds nothing of the value that was
classified first but what the payload is made of: of an action every entry except null optional
fields, of an update the key and the value. -/
theorem classify_is_stable (sent : Json.Ordered) {payload : Payload}
    (h : classify sent.value = .ok payload) :
    classify payload.toJson = .ok payload ∧
    (∀ action, payload = .action action →
      payload.toJson = sent.value.withoutNulls ["thngId", "customFields"]) ∧
    (∀ update, payload = .property update →
      sent.value.get? "key" = some (.string update.key) ∧
      sent.value.get? "value" = some update.value ∧
      payload.toJson = .object [("key", .string update.key), ("value", update.value)]) := by
  have canonical := sent.canonical
  cases payload with
  | action action =>
      obtain ⟨⟨s, hs, htype⟩, hread⟩ := classify_eq_action_iff.1 h
      have reads := (ActionPayload.ofJson_eq_ok_iff canonical).1 hread
      have hwritten := ActionPayload.toJson_of_reads canonical reads
      refine ⟨?_, fun _ _ => hwritten, nofun⟩
      rw [hwritten]
      refine classify_eq_action_iff.2 ⟨⟨s, hs, ?_⟩, ?_⟩
      · rw [Json.get?_withoutNulls canonical, if_neg (by decide), htype]
      · exact (ActionPayload.ofJson_eq_ok_iff (Json.canonical_withoutNulls canonical _)).2
          (reads.withoutNulls canonical)
  | property update =>
      obtain ⟨-, hkey, hown, hcontent⟩ := classify_eq_property_iff.1 h
      refine ⟨?_, nofun, ?_⟩
      · rw [toJson_property]
        exact classify_eq_property_iff.2 ⟨nofun, hkey, rfl, rfl⟩
      · rintro own ⟨⟩
        exact ⟨hown, hcontent, toJson_property update⟩

/-- An action with the entries of an update, and with nulls at several places. -/
def ambiguous : Json :=
  .object [("customFields", .null), ("key", .string "active"),
    ("note", .object [("thngId", .null)]), ("thngId", .string "T2"), ("type", .string "scans"),
    ("value", .null)]

theorem ambiguous_is_stable :
    ∃ payload, classify ambiguous = .ok payload ∧ classify payload.toJson = .ok payload ∧
      payload.toJson = .object [("key", .string "active"), ("note", .object [("thngId", .null)]),
        ("thngId", .string "T2"), ("type", .string "scans"), ("value", .null)] := by
  have hclass : classify ambiguous = .ok (.action ⟨"scans", some "T2", none,
      [("key", .string "active"), ("note", .object [("thngId", .null)]), ("value", .null)]⟩) := by
    decide +kernel
  obtain ⟨hagain, hwritten, -⟩ := classify_is_stable ⟨ambiguous, by decide +kernel⟩ hclass
  exact ⟨_, hclass, hagain, (hwritten _ rfl).trans (by decide +kernel)⟩

end Payload
end EventRules
