import EventRules.Proofs.Payload.WireForm
import EventRules.Proofs.Remote.Endpoint

/-!
# Body — what the body of a request says

The body of a request that creates an action is the written form of the action, but for the entity
that it names: that is the target of the call and no other one.  A request that updates a property has
a list of one update as its body.

* `get?_actionBody` — the entries of the body for an action;
* `ActionPayload.Reads.actionBody` — what such a body is read as;
* `Url.NamesAction` — the type that the path of a request names;
* `HttpClient.body_names_target` — the bodies of all requests.
-/

namespace EventRules

/-! ## The entries of a body -/

theorem get?_actionBody (target : String) (payload : ActionPayload) (name : String) :
    (actionBody target payload).get? name =
      if name = "thng" then some (.string target)
      else if name = "thngId" then none
      else (Payload.action payload).toJson.get? name := by
  show ((Fields.erase _ _).insert _ _).lookup name = _
  rw [Fields.lookup_insert, Fields.lookup_erase]
  rfl

theorem canonical_actionBody {payload : ActionPayload}
    (canonical : (Payload.action payload).toJson.Canonical) (target : String) :
    (actionBody target payload).Canonical := by
  obtain ⟨sorted, entries⟩ := canonical
  refine ⟨Fields.sorted_insert (Fields.sorted_erase sorted), ?_⟩
  refine Json.canonicalEntries_iff.2 fun entry hentry => ?_
  rcases Fields.mem_of_mem_insert hentry with rfl | hown
  · trivial
  · exact entries.value (List.mem_of_mem_filter hown)

namespace ActionPayload

/-- An action that names an entity as its target, and no entity in another way. -/
def withTarget (target : String) (payload : ActionPayload) : ActionPayload :=
  { payload with thngId := none, extra := payload.extra.insert "thng" (.string target) }

/-- The body for an action is read as the action with the target of the call. -/
theorem Reads.actionBody {action : ActionPayload} {value : Json} (reads : action.Reads value)
    (target : String) : (action.withTarget target).Reads (actionBody target action) where
  type := by
    rw [get?_actionBody, if_neg (by decide), if_neg (by decide), reads.get?_toJson,
      if_neg (by decide)]
    exact reads.type
  thngId := by
    rw [Json.given?, get?_actionBody, if_neg (by decide), if_pos rfl]
    rfl
  customFields := by
    have hwritten := reads.get?_toJson "customFields"
    rw [if_pos (by decide), reads.customFields] at hwritten
    rw [Json.given?, get?_actionBody, if_neg (by decide), if_neg (by decide), hwritten]
    show _ = action.customFields.map Json.object
    cases action.customFields <;> rfl
  sorted := Fields.sorted_insert reads.sorted
  extra := by
    intro name
    show (action.extra.insert "thng" (.string target)).lookup name = _
    rw [Fields.lookup_insert, get?_actionBody, reads.extra]
    by_cases htarget : name = "thng"
    · subst htarget
      rfl
    · rw [if_neg htarget, if_neg htarget]
      split
      · rfl
      · rename_i hown
        rw [if_neg (ne_of_not_mem_ownNames hown).2.1, reads.get?_toJson,
          if_neg (not_mem_optionalNames hown)]

end ActionPayload

/-! ## The path of a request -/

/-- The path leads to the actions of a type. -/
def Url.NamesAction (url : Url) (type : String) : Prop :=
  ∃ front segment, url.segments = front ++ ["actions", segment] ∧ Path.StandsFor segment type

namespace Path

theorem isPlain_of_empty {segment text : String} (h : StandsFor segment text)
    (empty : segment = "") : IsPlain text := by
  subst empty
  have hnil : text.toList = [] := (Option.some.inj h.decodes).symm
  rw [String.toList_eq_nil_iff.1 hnil]
  decide +kernel

/-- A text that is put behind a plain one gets a segment that stands for it if it is plain itself. -/
theorem exists_push_iff {last : String} (plain : IsPlain last) (named : last ≠ "")
    (path : List String) (text : String) :
    (∃ front segment, push true false (path ++ [encoded last]) text =
        front ++ [encoded last, segment] ∧ StandsFor segment text) ↔ IsPlain text := by
  have notRoot : path ++ [encoded last] ≠ [""] := by
    intro root
    have hlast : encoded last = "" := by simpa using congrArg List.getLast? root
    exact encoded_ne_empty plain named hlast
  constructor
  · rintro ⟨front, segment, hpush, stands⟩
    have hsegment : (push true false (path ++ [encoded last]) text).getLast? = some segment := by
      rw [hpush]
      simp
    rcases push_cases (path ++ [encoded last]) text with same | back | ⟨dot, -⟩ | ⟨taken, noDots⟩
    · -- the text has left no trace, so it would be the one before it
      rw [same, List.getLast?_concat] at hsegment
      cases hsegment
      exact (standsFor_encoded plain).text_eq stands ▸ plain
    · rw [back, List.getLast?_concat] at hsegment
      exact isPlain_of_empty stands (Option.some.inj hsegment).symm
    · rw [dot, List.getLast?_concat] at hsegment
      exact isPlain_of_empty stands (Option.some.inj hsegment).symm
    · rw [taken, List.getLast?_concat] at hsegment
      cases hsegment
      have kept := Option.some.inj ((decode?_encoded text).symm.trans stands.decodes)
      exact ⟨noDots.1, noDots.2, (filter_eq_iff text).1 kept⟩
  · intro hplain
    refine ⟨path, encoded text, ?_, standsFor_encoded hplain⟩
    rw [push_of_isPlain hplain, opened_of_ne notRoot, List.append_assoc]
    rfl

end Path

namespace HttpClient

variable {client : HttpClient} {call : Call} {request : HttpRequest}

theorem body_of_request (h : client.request call = .ok request) : request.body = call.body := by
  unfold HttpClient.request at h
  extract_lets full user url values at h
  split at h
  · cases h
  split at h
  · cases h
  split at h
  · cases h
  cases h
  rfl

/-- The path of a request names the type of its action if the type is a plain text. -/
theorem namesAction_iff {target : String} {action : ActionPayload}
    (h : client.request ⟨target, .action action⟩ = .ok request) :
    request.url.NamesAction action.type ↔ Path.IsPlain action.type := by
  have plain : Path.IsPlain "actions" := by decide +kernel
  have written : Path.encoded "actions" = "actions" := by decide +kernel
  have hpath : client.path ⟨target, .action action⟩ =
      Path.push true false (Path.opened (Path.trimmed client.base.segments) ++ ["actions"])
        action.type := by
    show List.foldl (Path.push true false) (Path.trimmed client.base.segments)
      ["actions", action.type] = _
    rw [Path.foldl_push_trimmed plain, written]
    rfl
  have hpush := Path.exists_push_iff plain (by decide)
    (Path.opened (Path.trimmed client.base.segments)) action.type
  rw [written, ← hpath] at hpush
  rw [Url.NamesAction, url_of_request h]
  exact hpush

/-! ## Bodies and paths -/

/-- The body for an action names the target and no other entity, and is the written action otherwise;
the path names the type that the body names exactly if the type is plain.  The body for an update is a
list of its key and its value. -/
theorem body_names_target (sent : Json.Ordered) {payload : Payload}
    (hclass : Payload.classify sent.value = .ok payload) {target : String}
    (hrequest : client.request ⟨target, payload⟩ = .ok request) :
    (∀ action, payload = .action action →
      (∃ entries, request.body = .object entries ∧ Fields.Sorted entries) ∧
      request.body.get? "thng" = some (.string target) ∧
      request.body.get? "thngId" = none ∧
      (∀ name, name ≠ "thng" → name ≠ "thngId" →
        request.body.get? name = payload.toJson.get? name) ∧
      Payload.classify request.body = .ok (.action
        { action with thngId := none, extra := action.extra.insert "thng" (.string target) }) ∧
      ∃ type, request.body.get? "type" = some (.string type) ∧
        (request.url.NamesAction type ↔ Path.IsPlain type)) ∧
    ∀ update, payload = .property update → request.body =
      .array [.object [("key", .string update.key), ("value", update.value)]] := by
  rw [body_of_request hrequest]
  constructor
  · rintro action rfl
    obtain ⟨⟨s, hs, htype⟩, hread⟩ := Payload.classify_eq_action_iff.1 hclass
    have reads := (ActionPayload.ofJson_eq_ok_iff sent.canonical).1 hread
    have hwritten : (Payload.action action).toJson.Canonical := by
      rw [ActionPayload.toJson_of_reads sent.canonical reads]
      exact Json.canonical_withoutNulls sent.canonical _
    have hbody := canonical_actionBody hwritten target
    have hown := reads.actionBody target
    refine ⟨⟨_, rfl, hbody.1⟩, get?_actionBody target action "thng",
      get?_actionBody target action "thngId", fun name hthng hthngId => ?_, ?_,
      action.type, hown.type, namesAction_iff hrequest⟩
    · exact (get?_actionBody target action name).trans (by rw [if_neg hthng, if_neg hthngId])
    · refine Payload.classify_eq_action_iff.2 ⟨⟨s, hs, ?_⟩, ?_⟩
      · obtain rfl : s = action.type :=
          Json.string.inj (Option.some.inj (htype.symm.trans reads.type))
        exact hown.type
      · exact (ActionPayload.ofJson_eq_ok_iff hbody).2 hown
  · rintro update rfl
    rfl

/-- An action that names two entities, both of them others than the target of the call. -/
def astray : Json :=
  .object [("customFields", .object [("thngId", .null)]), ("note", .null), ("thng", .string "T9"),
    ("thngId", .string "T2"), ("type", .string "scans")]

theorem astray_names_target :
    ∃ (client : HttpClient) (action : ActionPayload) (request : HttpRequest),
      Payload.classify astray = .ok (.action action) ∧
      client.request ⟨"T1", .action action⟩ = .ok request ∧
      request.body.get? "thng" = some (.string "T1") ∧ request.body.get? "thngId" = none ∧
      request.body.get? "note" = some .null ∧ request.url.NamesAction "scans" ∧
      Payload.classify request.body = .ok (.action ⟨"scans", none, some [("thngId", .null)],
        [("note", .null), ("thng", .string "T1")]⟩) := by
  let client : HttpClient :=
    ⟨⟨"https", some ⟨"", none, some (.domain "host"), none⟩, ["v2", ""], none, none⟩, none⟩
  let action : ActionPayload :=
    ⟨"scans", some "T2", some [("thngId", .null)], [("note", .null), ("thng", .string "T9")]⟩
  let place : Url :=
    ⟨"https", some ⟨"", none, some (.domain "host"), none⟩, ["v2", "actions", "scans"], none, none⟩
  have hclass : Payload.classify astray = .ok (.action action) := by decide +kernel
  have hrequest : client.request ⟨"T1", .action action⟩ =
      .ok ⟨.post, place, [], Call.body ⟨"T1", .action action⟩⟩ := by decide +kernel
  obtain ⟨hthng, hthngId, hothers, hagain, type, htype, hpath⟩ :=
    ((body_names_target ⟨astray, by decide +kernel⟩ hclass hrequest).1 action rfl).2
  have hscans : type = "scans" := by
    have hown : (Call.body ⟨"T1", .action action⟩).get? "type" = some (.string "scans") := by
      decide +kernel
    exact Json.string.inj (Option.some.inj (htype.symm.trans hown))
  subst hscans
  refine ⟨client, action, _, hclass, hrequest, hthng, hthngId, ?_, hpath.2 (by decide +kernel), hagain⟩
  exact (hothers "note" (by decide) (by decide)).trans (by decide +kernel)

/-- A tab is left out of the path, which then names another type than the body. -/
theorem path_names_another_type :
    ∃ (client : HttpClient) (payload : Payload) (request : HttpRequest),
      ofSettings [] ⟨"http://127.0.0.1/v2", none, 30⟩ = .ok client ∧
      Payload.classify (.object [("type", .string "a\tb")]) = .ok payload ∧
      client.request ⟨"T1", payload⟩ = .ok request ∧
      request.body.get? "type" = some (.string "a\tb") ∧
      Url.pathText request.url.segments = "/v2/actions/ab" ∧ request.url.NamesAction "ab" ∧
      ¬ request.url.NamesAction "a\tb" := by
  let client : HttpClient :=
    ⟨⟨"http", some ⟨"", none, some (.ipv4 0x7f000001), none⟩, ["v2"], none, none⟩, none⟩
  let action : ActionPayload := ⟨"a\tb", none, none, []⟩
  let place : Url :=
    ⟨"http", some ⟨"", none, some (.ipv4 0x7f000001), none⟩, ["v2", "actions", "ab"], none, none⟩
  have hrequest : client.request ⟨"T1", .action action⟩ =
      .ok ⟨.post, place, [], Call.body ⟨"T1", .action action⟩⟩ := by decide +kernel
  have plain : Path.IsPlain "ab" := by decide +kernel
  have stands : Path.StandsFor "ab" "ab" := Path.standsFor_encoded plain
  refine ⟨client, .action action, _, by decide +kernel, by decide +kernel, hrequest,
    by decide +kernel, by decide +kernel, ⟨["v2"], "ab", rfl, stands⟩, fun names => ?_⟩
  exact absurd ((namesAction_iff hrequest).1 names) (by decide +kernel)

end HttpClient
end EventRules
