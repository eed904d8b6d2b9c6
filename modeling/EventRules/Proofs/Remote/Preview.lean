import EventRules.Proofs.Remote.Body
import EventRules.Remote.DryRun

/-!
# Preview — what a dry run shows of a call

A dry run logs and answers one body for each call.  For an update of a property it is the body that
would be sent.  For an action it is the payload as it stands, whereas what is sent names the target and
no other entity, so that the two are the same only if the payload names the target by itself.

* `DryRun.Shows` — the body that is logged and answered;
* `DryRun.shows_sent_iff` — when it is the one that would be sent;
* `DryRun.action_shown_without_target` — an action for which it is another one.
-/

namespace EventRules

/-- The value that an entry tells under a name. -/
def LogEntry.told? (entry : LogEntry) (name : String) : Option String :=
  (entry.fields.find? fun field => field.name == name).map LogField.value

/-! ## Bodies that are sent -/

/-- Nothing has to be changed about a body that names the target as it has to be named. -/
theorem actionBody_eq_iff {target : String} {payload : ActionPayload} :
    actionBody target payload = .ofEntries payload.entries ↔
      (Json.ofEntries payload.entries).get? "thng" = some (.string target) ∧
      (Json.ofEntries payload.entries).get? "thngId" = none := by
  constructor
  · intro same
    rw [← same, get?_actionBody, get?_actionBody]
    exact ⟨rfl, rfl⟩
  · rintro ⟨hthng, hthngId⟩
    refine congrArg Json.object (Fields.eq_of_lookup_eq ?_ (Fields.sorted_ofList _) fun name => ?_)
    · exact Fields.sorted_insert (Fields.sorted_erase (Fields.sorted_ofList _))
    · have hname := get?_actionBody target payload name
      refine hname.trans ?_
      split
      · rename_i same
        exact same ▸ hthng.symm
      · split
        · rename_i same
          exact same ▸ hthngId.symm
        · rfl

namespace DryRun

/-! ## Bodies that are shown -/

/-- The text of the body that an entry tells: an action as a whole, an update of a property by its key
and its value, which make up a list of one. -/
def toldBody? (payload : Payload) (entry : LogEntry) : Option String :=
  match payload with
  | .action _ => entry.told? "body"
  | .property _ => do
      let key ← entry.told? "key"
      let value ← entry.told? "value"
      return "[" ++ "\x7b" ++ Json.stringText "key" ++ ":" ++ Json.stringText key ++ "," ++
        Json.stringText "value" ++ ":" ++ value ++ "\x7d" ++ "]"

/-- A call is answered at once with a body, and the body is all that is logged of the payload. -/
structure Shows (call : Call) (body : Json) : Prop where
  answers : ∀ {σ : Type} (state : σ), ∃ entry, DryRun.api.call call state =
    (⟨[entry], 0, some (.answered body)⟩, state)
  logs : toldBody? call.payload (entry call) = some body.compact

theorem shows_body (call : Call) : Shows call (body call.payload) := by
  refine ⟨fun state => ⟨entry call, rfl⟩, ?_⟩
  rcases call with ⟨target, payload⟩
  cases payload with
  | action payload =>
      rfl
  | property payload =>
      have htold : toldBody? (.property payload) (entry ⟨target, .property payload⟩) =
          some ("[" ++ "\x7b" ++ Json.stringText "key" ++ ":" ++ Json.stringText payload.key ++ "," ++
            Json.stringText "value" ++ ":" ++ payload.value.compact ++ "\x7d" ++ "]") := rfl
      rw [htold]
      simp only [body, propertyBody, PropertyPayload.entries, Json.compact, Json.compactItems,
        Json.compactEntries, String.append_assoc]

theorem Shows.eq_body {call : Call} {shown : Json} (shows : Shows call shown) :
    shown = body call.payload := by
  obtain ⟨entry, h⟩ := shows.answers ()
  cases h
  rfl

/-! ## Shown and sent -/

/-- A dry run shows what a call would send, unless the payload of an action names its target in another
way than what is sent: as `thng`, and by no other name. -/
theorem shows_sent_iff {client : HttpClient} {call : Call} {request : HttpRequest}
    (h : client.request call = .ok request) :
    Shows call (body call.payload) ∧
    (Shows call request.body ↔ ∀ action, call.payload = .action action →
      (body call.payload).get? "thng" = some (.string call.target) ∧
      (body call.payload).get? "thngId" = none) ∧
    -- whatever else is sent for an action is shown, and nothing else is
    (∀ action, call.payload = .action action → ∀ name, name ≠ "thng" → name ≠ "thngId" →
      request.body.get? name = (body call.payload).get? name) := by
  rw [HttpClient.body_of_request h]
  have hsent : Shows call call.body ↔ call.body = body call.payload :=
    ⟨Shows.eq_body, fun same => same ▸ shows_body call⟩
  rcases call with ⟨target, payload⟩
  refine ⟨shows_body _, ?_, ?_⟩
  · rw [hsent]
    cases payload with
    | action payload =>
        refine Iff.trans actionBody_eq_iff ⟨?_, fun all => all payload rfl⟩
        rintro named action ⟨⟩
        exact named
    | property payload =>
        refine ⟨fun _ action hnone => ?_, fun _ => rfl⟩
        cases hnone
  · rintro action ⟨⟩ name hthng hthngId
    refine (get?_actionBody target action name).trans ?_
    rw [if_neg hthng, if_neg hthngId]
    rfl

theorem named_target_is_shown :
    ∃ (client : HttpClient) (payload : Payload) (request : HttpRequest),
      Payload.classify (.object [("note", .null), ("thng", .string "T1"), ("type", .string "scans")]) =
        .ok payload ∧
      client.request ⟨"T1", payload⟩ = .ok request ∧ Shows ⟨"T1", payload⟩ request.body := by
  let client : HttpClient :=
    ⟨⟨"https", some ⟨"", none, some (.domain "host"), none⟩, ["v2", ""], none, none⟩, none⟩
  let action : ActionPayload := ⟨"scans", none, none, [("note", .null), ("thng", .string "T1")]⟩
  let place : Url :=
    ⟨"https", some ⟨"", none, some (.domain "host"), none⟩, ["v2", "actions", "scans"], none, none⟩
  have hrequest : client.request ⟨"T1", .action action⟩ =
      .ok ⟨.post, place, [], Call.body ⟨"T1", .action action⟩⟩ := by decide +kernel
  obtain ⟨-, hiff, -⟩ := shows_sent_iff hrequest
  refine ⟨client, .action action, _, by decide +kernel, hrequest, hiff.2 ?_⟩
  rintro own ⟨⟩
  decide +kernel

/-- What is shown of this action names an entity that it is not for, and not the one that it is for. -/
theorem action_shown_without_target :
    ∃ (client : HttpClient) (payload : Payload) (request : HttpRequest),
      HttpClient.ofSettings [] ⟨"http://127.0.0.1/v2", none, 30⟩ = .ok client ∧
      Payload.classify (.object [("thngId", .string "T2"), ("type", .string "scans")]) =
        .ok payload ∧
      client.request ⟨"T1", payload⟩ = .ok request ∧
      (body payload).compact = "\x7b\"thngId\":\"T2\",\"type\":\"scans\"\x7d" ∧
      request.body.compact = "\x7b\"thng\":\"T1\",\"type\":\"scans\"\x7d" ∧
      ¬ Shows ⟨"T1", payload⟩ request.body := by
  let client : HttpClient :=
    ⟨⟨"http", some ⟨"", none, some (.ipv4 0x7f000001), none⟩, ["v2"], none, none⟩, none⟩
  let action : ActionPayload := ⟨"scans", some "T2", none, []⟩
  let place : Url :=
    ⟨"http", some ⟨"", none, some (.ipv4 0x7f000001), none⟩, ["v2", "actions", "scans"], none, none⟩
  refine ⟨client, .action action, ⟨.post, place, [], Call.body ⟨"T1", .action action⟩⟩, ?_⟩
  refine ⟨by decide +kernel, by decide +kernel, by decide +kernel, by decide +kernel,
    by decide +kernel, fun shows => ?_⟩
  have hdiffers : Call.body ⟨"T1", .action action⟩ ≠ body (.action action) := by
    decide +kernel
  exact hdiffers shows.eq_body

end DryRun
end EventRules
