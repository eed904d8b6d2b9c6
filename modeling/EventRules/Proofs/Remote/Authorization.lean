import EventRules.Proofs.Evaluation.Simulation
import EventRules.Proofs.Settings.Key
import EventRules.Remote.Http

/-!
# Authorization — what the key of a client does

The key of a client is the last of the values that say who asks; a user that the base names comes
before it.  Nothing else about a request depends on the key, and nothing that becomes of a call does.

* `HttpRequest.askedBy` — a request in which someone else asks;
* `HttpClient.request_of_fitsHeader` — the requests of a client with a key;
* `HttpClient.simulates_laidOut` — calls with one key, and the same calls with another one.
-/

namespace EventRules

/-- A request in which other values say who asks. -/
def HttpRequest.askedBy (values : List String) (request : HttpRequest) : HttpRequest :=
  { request with authorization := values }

/-- The same requests, all of them with other values that say who asks. -/
def Transcript.askedBy (values : List String) (transcript : Transcript) : Transcript :=
  { transcript with requests := transcript.requests.map (HttpRequest.askedBy values) }

theorem Network.laidOut_askedBy (last : HttpReply) (values : List String) (request : HttpRequest)
    (transcript : Transcript) :
    Network.laidOut last (request.askedBy values) (transcript.askedBy values) =
      ((Network.laidOut last request transcript).1,
        (Network.laidOut last request transcript).2.askedBy values) := by
  obtain ⟨replies, requests⟩ := transcript
  cases replies with
  | nil =>
      simp [Network.laidOut, Transcript.askedBy]
  | cons reply rest =>
      simp [Network.laidOut, Transcript.askedBy]

namespace HttpClient

/-! ## Requests -/

/-- The header values by which a locator names a user: none if it names none. -/
def credentials (url : Url) : List String :=
  ((userOf? url).map fun (user, password) => userHeader user password).toList

theorem fitsHeader_of_isPlainKey {key : String} (h : Settings.IsPlainKey key) :
    fitsHeader key = true := by
  unfold fitsHeader
  rw [List.all_eq_true]
  intro c hc
  obtain ⟨low, high⟩ := h.visible c hc
  have hlow : 0x21 ≤ c.toNat := low
  have hhigh : c.toNat ≤ 0x7e := high
  have hdelete : c ≠ '\x7f' := by
    rintro rfl
    exact absurd hhigh (by decide)
  simp [hdelete]
  omega

/-- A key that fits into a header adds itself to what a request says about who asks, and nothing
else. -/
theorem request_of_fitsHeader {key : String} (h : fitsHeader key = true) (base : Url) (call : Call) :
    request ⟨base, some key⟩ call =
      (request ⟨base, none⟩ call).map (HttpRequest.askedBy (credentials base ++ [key])) := by
  have huser : userOf? (base.append call.segments) = userOf? base := rfl
  unfold request
  simp only [huser, Option.all_some, Option.all_none, h, Bool.not_true, Bool.false_eq_true, if_false]
  -- whether the request can be sent is a matter of its locator
  generalize (if (userOf? base).isSome then withoutUser (base.append call.segments)
    else base.append call.segments) = url
  split
  · rfl
  · split <;> rfl

theorem conduct_askedBy {first second : HttpClient} {values : List String}
    (h : ∀ call, second.request call = (first.request call).map (HttpRequest.askedBy values))
    (last : HttpReply) (call : Call) (transcript : Transcript) :
    second.conduct (Network.laidOut last) call (transcript.askedBy values) =
      ((first.conduct (Network.laidOut last) call transcript).1,
        (first.conduct (Network.laidOut last) call transcript).2.askedBy values) := by
  unfold conduct
  rw [h call]
  cases first.request call with
  | error fault =>
      rfl
  | ok request =>
      simp only [Except.map, Network.laidOut_askedBy]
      rfl

/-- Two keys lead to the same calls, and to requests that differ in the key alone. -/
theorem simulates_laidOut {key key' : String} (hkey : fitsHeader key = true)
    (hkey' : fitsHeader key' = true) (base : Url) (last : HttpReply) :
    ((⟨base, some key⟩ : HttpClient).api (Network.laidOut last)).Simulates
      (Transcript.askedBy (credentials base ++ [key']))
      ((⟨base, some key'⟩ : HttpClient).api (Network.laidOut last)) where
  name := rfl
  call := by
    refine conduct_askedBy (fun call => ?_) last
    rw [request_of_fitsHeader hkey, request_of_fitsHeader hkey']
    cases request ⟨base, none⟩ call <;> rfl

/-! ## Clients -/

theorem expanded_eq_self {text : String} (h : ¬ ['$', '\x7b'] <:+: text.toList)
    (environment : Environment) : expanded environment text = .ok text := by
  unfold expanded
  rw [environment.expand_eq_self h]

/-- A client whose base has no references and whose key is plain. -/
theorem ofSettings_of_isPlainKey {settings : ApiSettings} {key : String}
    (hurl : ¬ ['$', '\x7b'] <:+: settings.url.toList) (hsettings : settings.key = some key)
    (h : Settings.IsPlainKey key) (environment : Environment) :
    ofSettings environment settings = (baseOf settings.url).map fun base => ⟨base, some key⟩ := by
  have hinside : ¬ ['$', '\x7b'] <:+: key.toList := fun inside =>
    h.noReference (inside.subset (List.mem_cons_self ..))
  unfold ofSettings
  rw [hsettings, expanded_eq_self hurl]
  simp only [expanded_eq_self hinside]
  cases hbase : baseOf settings.url with
  | error fault =>
      show (baseOf settings.url >>= _) = _
      rw [hbase]
      rfl
  | ok base =>
      show (baseOf settings.url >>= _) = _
      rw [hbase]
      rfl

end HttpClient

end EventRules
