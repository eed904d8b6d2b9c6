import EventRules.Proofs.Url.Append
import EventRules.Remote.Http

/-!
# Endpoint — where the requests of calls go

A request goes to the base of the service and, behind it, one segment for each text that its call
names.  This holds exactly as long as the texts are plain; requests that hold to it go to different
places if their calls name different texts.

* `HttpClient.request_leadsThrough_iff` — which requests stay at their endpoint;
* `HttpClient.request_leaves_endpoint` — what becomes of tabs and dots.
-/

namespace EventRules

/-- A locator like another one, but with one more segment for each text. -/
def Url.LeadsThrough (base : Url) (texts : List String) (url : Url) : Prop :=
  ∃ segments, url = { base with segments := Path.stem base.segments ++ segments } ∧
    List.Forall₂ Path.StandsFor segments texts

namespace HttpClient

variable {client : HttpClient} {call : Call} {request : HttpRequest}

/-! ## The locator of a request -/

/-- The base as requests have it: a user is named by a header alone. -/
def origin (client : HttpClient) : Url :=
  if (userOf? client.base).isSome then withoutUser client.base else client.base

theorem segments_origin (client : HttpClient) : client.origin.segments = client.base.segments := by
  unfold origin
  split <;> rfl

theorem isKnown_of_isWebScheme {scheme : String} (h : isWebScheme scheme = true) :
    Url.isKnownScheme scheme = true ∧ (scheme == "file") = false := by
  simp only [isWebScheme, Bool.or_eq_true, decide_eq_true_eq] at h
  rcases h with rfl | rfl <;> decide +kernel

/-- The path of the base with the texts of a call pushed behind it. -/
def path (client : HttpClient) (call : Call) : List String :=
  call.segments.foldl (Path.push true false) (Path.trimmed client.base.segments)

/-- Where a call goes, as requests have it. -/
def place (client : HttpClient) (call : Call) : Url :=
  { client.origin with segments := client.path call }

/-- On the web, appending the texts of a call and naming its user by a header leads to its place. -/
theorem place_of_web (web : isWebScheme client.base.scheme = true) (call : Call) :
    (if (userOf? (client.base.append call.segments)).isSome
      then withoutUser (client.base.append call.segments)
      else client.base.append call.segments) = client.place call := by
  -- the schemes of the web are known, so that dots count, and none of them is that of files
  obtain ⟨known, file⟩ := isKnown_of_isWebScheme web
  have appended : client.base.append call.segments =
      { client.base with segments := client.path call } := by
    rw [Url.append, Url.isKnown, known, file, path]
  rw [appended]
  show (if (userOf? client.base).isSome then _ else _) = _
  unfold place origin
  split <;> rfl

/-- Requests go to the web, and only the segments of the base change. -/
theorem url_of_request (h : client.request call = .ok request) :
    request.url = { client.origin with segments := client.path call } := by
  unfold HttpClient.request at h
  extract_lets full user url values at h
  split at h
  · cases h
  split at h
  · cases h
  rename_i web
  split at h
  · cases h
  have scheme : url.scheme = client.base.scheme := by
    show (if user.isSome then withoutUser full else full).scheme = client.base.scheme
    split <;> rfl
  rw [scheme] at web
  cases h
  exact place_of_web (by simpa using web) call

/-- A call names its endpoint first. -/
theorem segments_eq_cons (call : Call) :
    ∃ first rest, call.segments = first :: rest ∧ Path.IsPlain first ∧ first ≠ "" := by
  unfold Call.segments
  split
  · exact ⟨"actions", _, rfl, by decide +kernel, by decide⟩
  · exact ⟨"thngs", _, rfl, by decide +kernel, by decide⟩

/-- A request of plain texts has one segment for each of them. -/
theorem segments_of_request (h : client.request call = .ok request)
    (plain : ∀ text ∈ call.segments, Path.IsPlain text) :
    request.url.segments =
      Path.opened (Path.trimmed client.base.segments) ++ call.segments.map Path.encoded := by
  obtain ⟨first, rest, texts, -, named⟩ := segments_eq_cons call
  rw [url_of_request h]
  unfold path
  rw [texts] at plain ⊢
  exact Path.foldl_push_eq_encoded client.base.segments plain named

/-! ## Staying at the endpoint -/

/-- A request stays at its endpoint exactly if its call names plain texts, behind a base whose path
is not two empty segments; requests of plain calls to one path are of calls that name the same. -/
theorem request_leadsThrough_iff (h : client.request call = .ok request) :
    (client.origin.LeadsThrough call.segments request.url ↔
        client.base.segments ≠ ["", ""] ∧ ∀ text ∈ call.segments, Path.IsPlain text) ∧
      ∀ other otherRequest, client.request other = .ok otherRequest →
        (∀ text ∈ call.segments, Path.IsPlain text) →
        (∀ text ∈ other.segments, Path.IsPlain text) →
        Url.pathText request.url.segments = Url.pathText otherRequest.url.segments →
        call.segments = other.segments := by
  constructor
  · obtain ⟨first, rest, texts, plain, named⟩ := segments_eq_cons call
    rw [Url.LeadsThrough, url_of_request h, segments_origin, path, texts,
      ← Path.leadsThrough_iff plain named]
    refine exists_congr fun segments => and_congr_left fun _ => ?_
    exact ⟨fun same => congrArg Url.segments same, fun same => by rw [same]⟩
  · intro other otherRequest hother plain plainOther same
    rw [segments_of_request h plain, segments_of_request hother plainOther] at same
    exact Path.texts_eq_of_pathText_eq (Path.forall₂_encoded plain)
      (Path.forall₂_encoded plainOther) same

theorem request_leadsThrough_separators :
    ∃ (client : HttpClient) (first second : HttpRequest),
      let call (key : String) (value : Json) : Call := ⟨"a/..%2F é", .property ⟨key, value⟩⟩
      client.request (call "on" (.bool true)) = .ok first ∧
        client.request (call "size" .null) = .ok second ∧
        first.url.text = "https://host/v2/thngs/a%2F..%252F%20%C3%A9/properties" ∧
        second.url.text = "https://host/v2/thngs/a%2F..%252F%20%C3%A9/properties" ∧
        client.origin.LeadsThrough ["thngs", "a/..%2F é", "properties"] first.url ∧
        (call "on" (.bool true)).segments = (call "size" .null).segments := by
  let client : HttpClient :=
    ⟨⟨"https", some ⟨"", none, some (.domain "host"), none⟩, ["v2", ""], none, none⟩, none⟩
  let call (key : String) (value : Json) : Call := ⟨"a/..%2F é", .property ⟨key, value⟩⟩
  let place : Url :=
    ⟨"https", some ⟨"", none, some (.domain "host"), none⟩,
      ["v2", "thngs", "a%2F..%252F%20%C3%A9", "properties"], none, none⟩
  have first : client.request (call "on" (.bool true)) =
      .ok ⟨.put, place, [], (call "on" (.bool true)).body⟩ := by decide +kernel
  have second : client.request (call "size" .null) =
      .ok ⟨.put, place, [], (call "size" .null).body⟩ := by decide +kernel
  have plain : ∀ text ∈ ["thngs", "a/..%2F é", "properties"], Path.IsPlain text := by
    decide +kernel
  obtain ⟨leads, apart⟩ := request_leadsThrough_iff first
  have text : place.text = "https://host/v2/thngs/a%2F..%252F%20%C3%A9/properties" := by
    decide +kernel
  exact ⟨client, _, _, first, second, text, text, leads.2 ⟨by decide, plain⟩,
    apart _ _ second plain plain rfl⟩

/-- Tabs are left out, so two entities have one path; dots leave a segment out or go one back. -/
theorem request_leaves_endpoint :
    ∃ client : HttpClient, ofSettings [] ⟨"http://127.0.0.1/v2", none, 30⟩ = .ok client ∧
      let path (target : String) :=
        (client.request ⟨target, .property ⟨"active", .bool true⟩⟩).toOption.map fun request =>
          Url.pathText request.url.segments
      path "ab" = some "/v2/thngs/ab/properties" ∧
        path "a\tb" = some "/v2/thngs/ab/properties" ∧
        path "." = some "/v2/thngs/properties" ∧
        path ".\t." = some "/v2//properties" :=
  ⟨⟨⟨"http", some ⟨"", none, some (.ipv4 0x7f000001), none⟩, ["v2"], none, none⟩, none⟩,
    by decide +kernel⟩

end HttpClient
end EventRules
