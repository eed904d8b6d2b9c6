import EventRules.Proofs.Evaluation.Simulation
import EventRules.Proofs.Payload.Shape
import EventRules.Proofs.Remote.Authorization
import EventRules.Proofs.Remote.Endpoint
import EventRules.Proofs.Text.Blank
import EventRules.Proofs.Text.Bytes
import EventRules.Remote.Dispatch
import EventRules.Rule.Fault

/-!
# Exchange — one request for each payload

Values that are sent one after the other lead to one request for each payload, whatever came back for
the requests before it, as long as the locator of the request is not too long to be sent.  What becomes
of a value is told by what came back for its own request, and by nothing else.

* `Api.dispatchAll` — values in turn; `Network.kept` — a network that keeps what goes over it;
* `HttpClient.request_of_reaches` — the request of a call, and when there is none;
* `HttpReply.Means`, `HttpClient.Concludes` — what becomes of one value;
* `HttpClient.one_request_for_each_payload` — what becomes of all of them;
* `HttpClient.not_fitsLine_of_length` — locators that are too long.
-/

namespace EventRules

/-! ## Values in turn -/

/-- A value that is to be sent, and the entity that it is for. -/
structure Sending where
  target : String
  value : Json

/-- Sends values one after the other; answers what became of each, and the state at the end. -/
def Api.dispatchAll {σ : Type} (api : Api σ) (rounds : Nat) :
    List Sending → σ → List Outcome × σ
  | [], state => ([], state)
  | sending :: rest, state =>
      let made := api.dispatchValue rounds sending.target sending.value state
      let later := api.dispatchAll rounds rest made.state
      (made.outcome :: later.1, later.2)

theorem Api.Simulates.dispatchAll {σ τ : Type} {f : σ → τ} {first : Api σ} {second : Api τ}
    (h : first.Simulates f second) (rounds : Nat) (sendings : List Sending) (state : σ) :
    second.dispatchAll rounds sendings (f state) =
      ((first.dispatchAll rounds sendings state).1,
        f (first.dispatchAll rounds sendings state).2) := by
  have one (sending : Sending) (state : σ) :
      second.dispatchValue rounds sending.target sending.value (f state) =
        (first.dispatchValue rounds sending.target sending.value state).mapState f := by
    unfold Api.dispatchValue
    split
    · exact h.dispatch rounds _ state
    · rfl
  induction sendings generalizing state with
  | nil =>
      rfl
  | cons sending rest ih =>
      simp only [Api.dispatchAll, one, Dispatched.mapState, ih]

/-- A request that was received, and what came back for it. -/
structure Exchanged where
  request : HttpRequest
  reply : HttpReply

/-- A network together with the requests that it has received and its replies to them. -/
def Network.kept {σ : Type} (network : Network σ) : Network (σ × List Exchanged) :=
  fun request state =>
    let answer := network request state.1
    (answer.1, answer.2, state.2 ++ [⟨request, answer.1.reply⟩])

/-- That a network keeps its requests changes nothing for a client. -/
theorem HttpClient.simulates_kept {σ : Type} (client : HttpClient) (network : Network σ) :
    (client.api network.kept).Simulates Prod.fst (client.api network) where
  name := rfl
  call call state := by
    simp only [HttpClient.api, HttpClient.conduct, Network.kept]
    split <;> rfl

/-! ## Replies -/

/-- What a reply means for what was asked for: only of a success the body is read. -/
inductive HttpReply.Means (operation : Operation) (status : Nat) (body : String) : Outcome → Prop
  | refusal : ¬ (200 ≤ status ∧ status ≤ 299) →
      Means operation status body (.failed (.remote (.status operation status body)))
  | nothing : 200 ≤ status ∧ status ≤ 299 → (∀ c ∈ body.toList, Text.isBlank c = true) →
      Means operation status body (.answered .null)
  | value {value : Json} : 200 ≤ status ∧ status ≤ 299 →
      ¬ (∀ c ∈ body.toList, Text.isBlank c = true) → Json.parse body = .ok value →
      Means operation status body (.answered value)
  | noValue {fault : Json.Fault} : 200 ≤ status ∧ status ≤ 299 →
      ¬ (∀ c ∈ body.toList, Text.isBlank c = true) → Json.parse body = .error fault →
      Means operation status body (.failed (.remote (.serialization fault.message)))

namespace HttpClient

theorem isSuccess_iff {status : Nat} : isSuccess status = true ↔ 200 ≤ status ∧ status ≤ 299 := by
  simp only [isSuccess, Bool.and_eq_true, decide_eq_true_eq]
  omega

theorem isEmpty_trimChars_iff {cs : List Char} :
    (Text.trimChars cs).isEmpty = true ↔ ∀ c ∈ cs, Text.isBlank c = true := by
  rw [List.isEmpty_iff, Text.trimChars_eq_nil_iff]

theorem means_valueOf {operation : Operation} {status : Nat}
    (success : 200 ≤ status ∧ status ≤ 299) (body : String) :
    HttpReply.Means operation status body (.ofEnding (endingOf (valueOf body))) := by
  unfold valueOf
  split
  · rename_i hempty
    exact .nothing success (isEmpty_trimChars_iff.1 hempty)
  · rename_i hempty
    have visible := mt isEmpty_trimChars_iff.2 hempty
    split
    · rename_i value hparse
      exact .value success visible hparse
    · rename_i fault hparse
      exact .noValue success visible hparse

/-- What a reply means is what becomes of its request. -/
theorem means_iff (request : HttpRequest) {operation : Operation} {status : Nat} {body : String}
    {outcome : Outcome} : HttpReply.Means operation status body outcome ↔
      outcome = .ofEnding (endingOf (result request operation (.answered status body))) := by
  rw [result]
  constructor
  · intro h
    cases h with
    | refusal refused =>
        rw [if_neg (mt isSuccess_iff.1 refused)]
        rfl
    | nothing success blank =>
        rw [if_pos (isSuccess_iff.2 success), valueOf, if_pos (isEmpty_trimChars_iff.2 blank)]
        rfl
    | value success visible hparse =>
        rw [if_pos (isSuccess_iff.2 success), valueOf,
          if_neg (mt isEmpty_trimChars_iff.1 visible), hparse]
        rfl
    | noValue success visible hparse =>
        rw [if_pos (isSuccess_iff.2 success), valueOf,
          if_neg (mt isEmpty_trimChars_iff.1 visible), hparse]
        rfl
  · rintro rfl
    by_cases success : isSuccess status = true
    · rw [if_pos success]
      exact means_valueOf (isSuccess_iff.1 success) body
    · rw [if_neg success]
      exact .refusal (mt isSuccess_iff.2 success)

/-! ## Requests -/

/-- The key of a client may stand in a header, and it reaches a server that replies to every request
before the patience of the client ends. -/
structure Reaches {σ : Type} (client : HttpClient) (network : Network σ) (rounds : Nat) : Prop where
  key : client.key.all fitsHeader = true
  web : isWebScheme client.base.scheme = true
  host : ((client.base.authority.map Authority.hostText).getD "").toList.all
    (fun c => !(['"', '`', '\x7b', '\x7d'].contains c)) = true
  answers : ∀ request state, ∃ suspensions status body,
    (network request state).1 = ⟨suspensions, .answered status body⟩ ∧ suspensions < rounds

/-- The locator of a call is short enough to be sent. -/
def FitsLine (client : HttpClient) (call : Call) : Prop :=
  (client.place call).text.utf8ByteSize ≤ lengthLimit

instance (client : HttpClient) (call : Call) : Decidable (client.FitsLine call) :=
  inferInstanceAs (Decidable (_ ≤ _))

/-- The fault of a call whose locator is too long. -/
def overlong (client : HttpClient) (call : Call) : RemoteFault :=
  builderFault (client.place call) "Parsed Url is not a valid Uri"

theorem hostText_place (client : HttpClient) (call : Call) :
    (client.place call).authority.map Authority.hostText =
      client.base.authority.map Authority.hostText := by
  unfold place origin
  split
  · show (client.base.authority.map _).map _ = _
    rw [Option.map_map]
    rfl
  · rfl

theorem scheme_place (client : HttpClient) (call : Call) :
    (client.place call).scheme = client.base.scheme := by
  unfold place origin
  split <;> rfl

section Reaches

variable {σ : Type} {client : HttpClient} {network : Network σ} {rounds : Nat}

theorem isSendable_place_iff (reaches : client.Reaches network rounds) (call : Call) :
    isSendable (client.place call) = true ↔ client.FitsLine call := by
  unfold isSendable
  rw [hostText_place, Bool.and_eq_true, decide_eq_true_eq]
  exact and_iff_right reaches.host

/-- There is a request for every call, unless its locator is too long. -/
theorem request_of_reaches (reaches : client.Reaches network rounds) (call : Call) :
    client.request call =
      if client.FitsLine call then
        .ok ⟨call.method, client.place call, credentials client.base ++ client.key.toList, call.body⟩
      else .error (client.overlong call) := by
  have hplace := place_of_web reaches.web call
  have hweb : isWebScheme (client.place call).scheme = true := by
    rw [scheme_place]
    exact reaches.web
  have huser : userOf? (client.base.append call.segments) = userOf? client.base := rfl
  unfold request
  simp only [hplace, reaches.key, hweb, Bool.not_true, Bool.false_eq_true, if_false]
  by_cases fits : client.FitsLine call
  · rw [if_pos fits, if_neg (by simp [(isSendable_place_iff reaches call).2 fits])]
    simp only [huser]
    rfl
  · have hsendable : isSendable (client.place call) = false :=
      Bool.eq_false_iff.2 fun sendable => fits ((isSendable_place_iff reaches call).1 sendable)
    rw [if_neg fits, if_pos (by simp [hsendable])]
    rfl

end Reaches

/-- The request for a value, if it is a payload and its request can be sent. -/
def requestOf? (client : HttpClient) (sending : Sending) : Option HttpRequest :=
  (Payload.classify sending.value).toOption.bind fun payload =>
    (client.request ⟨sending.target, payload⟩).toOption

/-! ## One value -/

/-- How the sending of a value ends: what has gone over the network for it, if anything, and what
becomes of it. -/
inductive Concludes (client : HttpClient) (sending : Sending) : Option Exchanged → Outcome → Prop
  | unclassified {problem : Unclassifiable} : Payload.classify sending.value = .error problem →
      Concludes client sending none (.failed (.unclassifiable problem))
  | unsent {payload : Payload} : Payload.classify sending.value = .ok payload →
      ¬ client.FitsLine ⟨sending.target, payload⟩ →
      Concludes client sending none (.failed (.remote (client.overlong ⟨sending.target, payload⟩)))
  | replied {payload : Payload} {request : HttpRequest} {status : Nat} {body : String}
      {outcome : Outcome} : Payload.classify sending.value = .ok payload →
      client.request ⟨sending.target, payload⟩ = .ok request →
      HttpReply.Means (Call.operation ⟨sending.target, payload⟩) status body outcome →
      Concludes client sending (some ⟨request, .answered status body⟩) outcome

/-- What becomes of a value depends on the value and on its own exchange alone. -/
theorem Concludes.unique {client : HttpClient} {sending : Sending} {exchanged : Option Exchanged}
    {first second : Outcome} (h : client.Concludes sending exchanged first)
    (other : client.Concludes sending exchanged second) : first = second := by
  cases h with
  | unclassified hclass =>
      cases other with
      | unclassified hother =>
          cases hclass.symm.trans hother
          rfl
      | unsent hother =>
          cases hclass.symm.trans hother
  | unsent hclass =>
      cases other with
      | unclassified hother =>
          cases hclass.symm.trans hother
      | unsent hother =>
          cases hclass.symm.trans hother
          rfl
  | @replied _ request _ _ _ hclass _ hmeans =>
      cases other with
      | replied hother _ hmeaning =>
          cases hclass.symm.trans hother
          rw [(means_iff request).1 hmeans, (means_iff request).1 hmeaning]

section Values

variable {σ : Type} {client : HttpClient} {network : Network σ} {rounds : Nat}

theorem Concludes.request_eq (reaches : client.Reaches network rounds) {sending : Sending}
    {exchanged : Option Exchanged} {outcome : Outcome}
    (h : client.Concludes sending exchanged outcome) :
    exchanged.map Exchanged.request = client.requestOf? sending := by
  cases h with
  | unclassified hclass =>
      simp [requestOf?, hclass, Except.toOption]
  | unsent hclass long =>
      simp [requestOf?, hclass, Except.toOption, request_of_reaches reaches, long]
  | replied hclass hrequest =>
      simp [requestOf?, hclass, Except.toOption, hrequest]

theorem requestOf?_isSome_iff (reaches : client.Reaches network rounds) (sending : Sending) :
    (client.requestOf? sending).isSome = true ↔
      ∃ payload, Payload.classify sending.value = .ok payload ∧
        client.FitsLine ⟨sending.target, payload⟩ := by
  unfold requestOf?
  cases hclass : Payload.classify sending.value with
  | error problem =>
      simp [Except.toOption]
  | ok payload =>
      by_cases fits : client.FitsLine ⟨sending.target, payload⟩ <;>
        simp [Except.toOption, request_of_reaches reaches, fits]

/-- A call whose request is sent is one exchange more, and what came back settles it. -/
theorem dispatch_replied (reaches : client.Reaches network rounds) {call : Call}
    {request : HttpRequest} (hrequest : client.request call = .ok request) (state : σ)
    (before : List Exchanged) :
    ∃ status body next,
      let made := (client.api network.kept).dispatch rounds call (state, before)
      made.state = (next, before ++ [⟨request, .answered status body⟩]) ∧
        made.outcome =
          .ofEnding (endingOf (result request call.operation (.answered status body))) := by
  obtain ⟨suspensions, status, body, hreply, inTime⟩ := reaches.answers request state
  refine ⟨status, body, (network request state).2, ?_, ?_⟩
  all_goals
    simp only [Api.dispatch, api, conduct, hrequest, Network.kept, hreply]
    rw [if_pos inTime]

/-- A call without a request leaves everything as it was. -/
theorem dispatch_unsent (reaches : client.Reaches network rounds) {call : Call}
    {fault : RemoteFault} (hrequest : client.request call = .error fault) (state : σ)
    (before : List Exchanged) :
    let made := (client.api network.kept).dispatch rounds call (state, before)
    made.state = (state, before) ∧ made.outcome = .failed (.remote fault) := by
  -- a network that replies in time leaves at least one round
  have waits : 0 < rounds := by
    obtain ⟨suspensions, -, -, -, inTime⟩ :=
      reaches.answers ⟨call.method, client.place call, [], call.body⟩ state
    omega
  simp only [Api.dispatch, api, conduct, hrequest, Conduct.immediate]
  rw [if_pos waits]
  exact ⟨rfl, rfl⟩

/-- A value leads to one exchange at most, and that is its own. -/
theorem dispatchValue_concludes (reaches : client.Reaches network rounds) (sending : Sending)
    (state : σ) (before : List Exchanged) :
    ∃ exchanged next,
      let made := (client.api network.kept).dispatchValue rounds sending.target sending.value
        (state, before)
      made.state = (next, before ++ exchanged.toList) ∧
        client.Concludes sending exchanged made.outcome := by
  unfold Api.dispatchValue
  cases hclass : Payload.classify sending.value with
  | error problem =>
      exact ⟨none, state, by simp, .unclassified hclass⟩
  | ok payload =>
      have hrequest := request_of_reaches reaches ⟨sending.target, payload⟩
      split at hrequest
      · obtain ⟨status, body, next, hstate, houtcome⟩ :=
          dispatch_replied reaches hrequest state before
        refine ⟨some ⟨_, .answered status body⟩, next, hstate, ?_⟩
        exact .replied hclass hrequest ((means_iff _).2 houtcome)
      · rename_i long
        obtain ⟨hstate, houtcome⟩ := dispatch_unsent reaches hrequest state before
        refine ⟨none, state, by simpa using hstate, ?_⟩
        exact houtcome ▸ .unsent hclass long

/-! ## All values -/

/-- By induction on the values: the exchanges of those that follow come behind those so far. -/
theorem dispatchAll_concludes (reaches : client.Reaches network rounds) (sendings : List Sending)
    (state : σ) (before : List Exchanged) :
    ∃ steps : List (Option Exchanged × Outcome),
      let run := (client.api network.kept).dispatchAll rounds sendings (state, before)
      run.1 = steps.map Prod.snd ∧ run.2.2 = before ++ steps.filterMap Prod.fst ∧
        List.Forall₂ (fun sending step => client.Concludes sending step.1 step.2)
          sendings steps := by
  induction sendings generalizing state before with
  | nil =>
      exact ⟨[], rfl, (List.append_nil before).symm, .nil⟩
  | cons sending rest ih =>
      obtain ⟨exchanged, next, hstate, concludes⟩ :=
        dispatchValue_concludes reaches sending state before
      obtain ⟨steps, outcomes, received, all⟩ := ih next (before ++ exchanged.toList)
      refine ⟨(exchanged, _) :: steps, ?_, ?_, .cons concludes all⟩
      · simp only [Api.dispatchAll, hstate, outcomes, List.map_cons]
      · simp only [Api.dispatchAll, hstate, received]
        cases exchanged <;> simp

theorem map_request_of_concludes (reaches : client.Reaches network rounds)
    {sendings : List Sending} {steps : List (Option Exchanged × Outcome)}
    (h : List.Forall₂ (fun sending step => client.Concludes sending step.1 step.2) sendings steps) :
    (steps.filterMap Prod.fst).map Exchanged.request = sendings.filterMap client.requestOf? := by
  induction h with
  | nil =>
      rfl
  | @cons sending step sendings steps concludes _ ih =>
      rw [List.filterMap_cons, List.filterMap_cons, ← concludes.request_eq reaches]
      cases step.1 with
      | none =>
          exact ih
      | some exchanged =>
          exact congrArg (exchanged.request :: ·) ih

/-- Values in turn lead to one request for each payload whose locator is short enough, in their order
and whatever came back before, and what becomes of a value is told by its own exchange.  A fault of
the service stays what it is when it becomes the fault of a rule. -/
theorem one_request_for_each_payload (reaches : client.Reaches network rounds)
    (sendings : List Sending) (state : σ) :
    let run := (client.api network.kept).dispatchAll rounds sendings (state, [])
    (client.api network).dispatchAll rounds sendings state = (run.1, run.2.1) ∧
    (∃ steps : List (Option Exchanged × Outcome),
      run.1 = steps.map Prod.snd ∧ run.2.2 = steps.filterMap Prod.fst ∧
      List.Forall₂ (fun sending step => client.Concludes sending step.1 step.2) sendings steps) ∧
    run.2.2.map Exchanged.request = sendings.filterMap client.requestOf? ∧
    (∀ sending, (client.requestOf? sending).isSome = true ↔
      ∃ payload, Payload.classify sending.value = .ok payload ∧
        client.FitsLine ⟨sending.target, payload⟩) ∧
    (∀ sending exchanged first second, client.Concludes sending exchanged first →
      client.Concludes sending exchanged second → first = second) ∧
    ∀ fault : RemoteFault, RuleFault.ofDispatch (.remote fault) = .remote fault ∧
      (RuleFault.remote fault).kind = "remote_operation" ∧
      (RuleFault.remote fault).message = (DispatchFault.remote fault).message := by
  obtain ⟨steps, outcomes, received, all⟩ := dispatchAll_concludes reaches sendings state []
  rw [List.nil_append] at received
  have unnoticed := (client.simulates_kept network).dispatchAll rounds sendings (state, [])
  refine ⟨unnoticed, ⟨steps, outcomes, received, all⟩, ?_, requestOf?_isSome_iff reaches,
    fun _ _ _ _ => Concludes.unique, fun fault => ⟨rfl, rfl, rfl⟩⟩
  rw [received]
  exact map_request_of_concludes reaches all

end Values

/-! ## A server on this machine -/

/-- A network that replies to each request with the next status and body, and at the end with nothing. -/
def answering : Network (List (Nat × String)) := fun _ replies =>
  match replies with
  | [] => (⟨0, .answered 204 ""⟩, [])
  | (status, body) :: rest => (⟨0, .answered status body⟩, rest)

def localClient : HttpClient :=
  ⟨⟨"http", some ⟨"", none, some (.ipv4 0x7f000001), none⟩, ["v2"], none, none⟩, none⟩

theorem reaches_localClient : localClient.Reaches answering 1 where
  key := rfl
  web := by decide
  host := by decide +kernel
  answers request replies := by
    cases replies with
    | nil =>
        exact ⟨0, 204, "", rfl, Nat.one_pos⟩
    | cons reply rest =>
        exact ⟨0, reply.1, reply.2, rfl, Nat.one_pos⟩

/-- The value that creates an action of a type and says nothing more. -/
def bareAction (type : String) : Json := .object [("type", .string type)]

/-- A failure and a value that is no payload do not hold up the payloads behind them. -/
theorem requests_between_failures :
    let sendings : List Sending := [
      ⟨"T1", bareAction "scans"⟩,
      ⟨"T1", bareAction ""⟩,
      ⟨"T1", .object [("key", .string "on"), ("value", .null)]⟩,
      ⟨"T2", bareAction "scans"⟩]
    let run := (localClient.api (Network.kept answering)).dispatchAll 1 sendings
      ([(500, " \n"), (200, " \n")], [])
    ofSettings [] ⟨"http://127.0.0.1/v2", none, 30⟩ = .ok localClient ∧
      run.1 = [.failed (.remote (.status .createAction 500 " \n")),
        .failed (.unclassifiable ⟨bareAction "", none⟩),
        .answered .null, .answered .null] ∧
      run.2.2.map (fun exchanged => (exchanged.request.method, exchanged.request.url.text)) =
        [(.post, "http://127.0.0.1/v2/actions/scans"),
          (.put, "http://127.0.0.1/v2/thngs/T1/properties"),
          (.post, "http://127.0.0.1/v2/actions/scans")] := by
  intro sendings run
  obtain ⟨-, -, requests, -, -, -⟩ := one_request_for_each_payload reaches_localClient sendings
    [(500, " \n"), (200, " \n")]
  refine ⟨by decide +kernel, by decide +kernel, ?_⟩
  have := congrArg (List.map fun request => (request.method, request.url.text)) requests
  rw [List.map_map] at this
  refine this.trans ?_
  decide +kernel

/-! ## Locators that are too long -/

/-- A type of more characters than a locator may have bytes. -/
theorem not_fitsLine_of_length {client : HttpClient} {target : String} {action : ActionPayload}
    (plain : Path.IsPlain action.type) (long : lengthLimit < action.type.length) :
    ¬ client.FitsLine ⟨target, .action action⟩ := by
  have texts : ∀ text ∈ ["actions", action.type], Path.IsPlain text := by
    simpa using ⟨by decide +kernel, plain⟩
  have hpath : client.path ⟨target, .action action⟩ =
      Path.opened (Path.trimmed client.base.segments) ++
        [Path.encoded "actions", Path.encoded action.type] :=
    Path.foldl_push_eq_encoded client.base.segments texts (by decide)
  have inPath : Path.encoded action.type ∈ client.path ⟨target, .action action⟩ := by
    rw [hpath]
    simp
  have size : action.type.length ≤ (Path.encoded action.type).utf8ByteSize := by
    have kept := (Path.filter_eq_iff action.type).2 plain.2.2
    calc action.type.length = action.type.toList.length := rfl
      _ ≤ (Percent.encode (Percent.inSegment true) action.type.toList).length :=
          Percent.length_le_encode _ _
      _ ≤ (Path.encoded action.type).utf8ByteSize := by
          rw [Path.encoded, kept]
          exact Text.length_le_utf8ByteSize _
  have part := Path.size_le_pathText inPath
  have whole : (Url.pathText (client.path ⟨target, .action action⟩)).utf8ByteSize ≤
      (client.place ⟨target, .action action⟩).text.utf8ByteSize :=
    Path.size_pathText_le (client.place ⟨target, .action action⟩)
  unfold FitsLine
  omega

theorem length_replicate_letter (n : Nat) :
    (String.ofList (List.replicate n 'a')).length = n := by
  rw [← String.length_toList, String.toList_ofList, List.length_replicate]

theorem isPlain_replicate_letter {n : Nat} (h : 2 < n) :
    Path.IsPlain (String.ofList (List.replicate n 'a')) := by
  have size := length_replicate_letter n
  refine ⟨fun dot => ?_, fun dots => ?_, fun c hc => ?_⟩
  · rw [dot] at size
    exact absurd size (Nat.ne_of_lt (Nat.lt_of_succ_lt h))
  · rw [dots] at size
    exact absurd size (Nat.ne_of_lt h)
  · rw [String.toList_ofList] at hc
    rw [List.eq_of_mem_replicate hc]
    decide

theorem classify_bareAction {type : String} (named : type ≠ "") :
    Payload.classify (bareAction type) = .ok (.action ⟨type, none, none, []⟩) :=
  if_pos (Payload.isNonEmptyText_iff.2 ⟨type, named, rfl⟩)

theorem not_requested_of_length {type : String} (plain : Path.IsPlain type)
    (long : lengthLimit < type.length) (replies : List (Nat × String)) :
    ((localClient.api (Network.kept answering)).dispatchAll 1 [⟨"T1", bareAction type⟩]
      (replies, [])).2.2 = [] := by
  have named : type ≠ "" := by
    rintro rfl
    cases long
  have hrequest := request_of_reaches reaches_localClient ⟨"T1", .action ⟨type, none, none, []⟩⟩
  rw [if_neg (not_fitsLine_of_length plain long)] at hrequest
  obtain ⟨hstate, -⟩ := dispatch_unsent reaches_localClient hrequest replies []
  simp only [Api.dispatchAll, Api.dispatchValue, classify_bareAction named, hstate]

/-- An action whose type is too long is a payload, and the server is there, but nothing reaches it. -/
theorem long_type_not_requested :
    ofSettings [] ⟨"http://127.0.0.1/v2", none, 30⟩ = .ok localClient ∧
      localClient.Reaches answering 1 ∧
      (∃ payload, Payload.classify (bareAction (String.ofList (List.replicate 65536 'a'))) =
        .ok payload) ∧
      ∀ replies, ((localClient.api (Network.kept answering)).dispatchAll 1
        [⟨"T1", bareAction (String.ofList (List.replicate 65536 'a'))⟩] (replies, [])).2.2 = [] := by
  have size := length_replicate_letter 65536
  have plain : Path.IsPlain (String.ofList (List.replicate 65536 'a')) :=
    isPlain_replicate_letter (by decide)
  have long : lengthLimit < (String.ofList (List.replicate 65536 'a')).length := by
    rw [size]
    decide
  refine ⟨by decide +kernel, reaches_localClient, ⟨_, classify_bareAction ?_⟩,
    not_requested_of_length plain long⟩
  intro empty
  rw [empty] at size
  cases size

end HttpClient
end EventRules
