import EventRules.Json.Text.Document
import EventRules.Remote.Api
import EventRules.Settings.Basic
import EventRules.Settings.Reference
import EventRules.Text.Basic
import EventRules.Url.OfText

/-!
# Http — the service behind a resource locator

An action is posted to `actions/` and its type, and carries the target entity.  A property update is
put to `thngs/`, the entity and `properties`, as a list of one.  Each payload leads to one request, and
the answer to the request alone decides the result of the call.

* `HttpClient.ofSettings` — a client, with all references to variables replaced;
* `HttpClient.request` — the request of a call;
* `HttpClient.result` — what becomes of the call, given the reply;
* `HttpClient.api` — the service, given the network;
* `Network.laidOut` — a network that goes through replies fixed beforehand and keeps the requests.
-/

namespace EventRules

inductive HttpMethod where
  | post
  | put
  deriving DecidableEq

def HttpMethod.name : HttpMethod → String
  | .post => "POST"
  | .put => "PUT"

structure HttpRequest where
  method : HttpMethod
  url : Url
  /-- The values that say who asks. -/
  authorization : List String
  body : Json
  deriving DecidableEq

inductive HttpReply where
  | answered (status : Nat) (body : String)
  /-- No answer came, for reasons from the outside to the inside. -/
  | unreachable (causes : List String)
  deriving DecidableEq

/-- A reply and how often the call suspends until it is there. -/
structure HttpExchange where
  suspensions : Nat
  reply : HttpReply
  deriving DecidableEq

/-- What answers requests, with the state `σ` that they leave behind. -/
abbrev Network (σ : Type) := HttpRequest → σ → HttpExchange × σ

structure HttpClient where
  base : Url
  key : Option String
  deriving DecidableEq

/-! ## Bodies -/

/-- The body of an action: the target is the only entity that it names. -/
def actionBody (target : String) (payload : ActionPayload) : Json :=
  .object (((Fields.ofList payload.entries).erase "thngId").insert "thng" (.string target))

def propertyBody (payload : PropertyPayload) : Json := .array [.object payload.entries]

def Call.body (call : Call) : Json :=
  match call.payload with
  | .action payload => actionBody call.target payload
  | .property payload => propertyBody payload

def Call.method (call : Call) : HttpMethod :=
  match call.payload with
  | .action _ => .post
  | .property _ => .put

/-- The segments that lead from the base of the service to where a call goes. -/
def Call.segments (call : Call) : List String :=
  match call.payload with
  | .action payload => ["actions", payload.type]
  | .property _ => ["thngs", call.target, "properties"]

namespace HttpClient

/-! ## Clients -/

/-- The base of a text in which all references are replaced. -/
def baseOf (text : String) : Except RemoteFault Url :=
  match Url.ofText text with
  | .ok url => .ok url
  | .error .notBase => .error (.configuration ("API url cannot be a base: " ++ text))
  | .error fault =>
      .error (.configuration ("invalid API url " ++ text ++ ": " ++ fault.message))

def expanded (environment : Environment) (text : String) : Except RemoteFault String :=
  match environment.expand text with
  | .ok result => .ok result
  | .error fault => .error (.configuration fault.message)

/-- The client of the settings; a fault of the base comes before one of the key. -/
def ofSettings (environment : Environment) (settings : ApiSettings) :
    Except RemoteFault HttpClient := do
  let base ← baseOf (← expanded environment settings.url)
  match settings.key with
  | none => return ⟨base, none⟩
  | some key => return ⟨base, some (← expanded environment key)⟩

def describe (client : HttpClient) : String :=
  "HttpEntityApi \x7b base_url: " ++ client.base.describe ++
    ", api_key: " ++ Url.shownOption Text.quoted client.key

/-! ## Requests -/

/-- Whether a text may stand in a header. -/
def fitsHeader (text : String) : Bool :=
  text.toList.all fun c => (0x20 ≤ c.toNat && c != '\x7f') || c = '\t'

def decodedText? (text : String) : Option String :=
  (Percent.decode? text.toList).map String.ofList

/-- The user of a locator and the password, if the locator names one of them. -/
def userOf? (url : Url) : Option (String × String) := do
  let authority ← url.authority
  let user ← decodedText? authority.user
  let password := authority.password.bind decodedText?
  if user = "" && password.isNone then none else return (user, password.getD "")

def withoutUser (url : Url) : Url :=
  { url with
    authority := url.authority.map fun authority => { authority with user := "", password := none } }

/-- The header value that names a user. -/
def userHeader (user password : String) : String :=
  "Basic " ++ String.ofList (Text.base64 (user ++ ":" ++ password).toUTF8.toList)

/-- The greatest number of bytes of a locator that can be sent. -/
def lengthLimit : Nat := 65534

/-- Whether the host and the length of a locator are right for a request. -/
def isSendable (url : Url) : Bool :=
  let host := (url.authority.map Authority.hostText).getD ""
  host.toList.all (fun c => !(['"', '`', '\x7b', '\x7d'].contains c)) &&
    url.text.utf8ByteSize ≤ lengthLimit

def isWebScheme (scheme : String) : Bool := scheme = "http" || scheme = "https"

def builderFault (url : Url) (cause : String) : RemoteFault :=
  .transport ("builder error for url (" ++ url.text ++ ")") [cause]

/-- The request of a call, if there can be one. -/
def request (client : HttpClient) (call : Call) : Except RemoteFault HttpRequest :=
  let full := client.base.append call.segments
  let user := userOf? full
  let url := if user.isSome then withoutUser full else full
  if !client.key.all fitsHeader then
    .error (.transport "builder error" ["failed to parse header value"])
  else if !isWebScheme url.scheme then
    .error (builderFault url "URL scheme is not allowed")
  else if !isSendable url then
    .error (builderFault url "Parsed Url is not a valid Uri")
  else
    let userValues := (user.map fun (name, password) => userHeader name password).toList
    .ok ⟨call.method, url, userValues ++ client.key.toList, call.body⟩

/-! ## Replies -/

/-- The value of the body of a success: nothing stands for null. -/
def valueOf (body : String) : Except RemoteFault Json :=
  if (Text.trimChars body.toList).isEmpty then .ok .null
  else
    match Json.parse body with
    | .ok value => .ok value
    | .error fault => .error (.serialization fault.message)

def isSuccess (status : Nat) : Bool := 200 ≤ status && status < 300

/-- What becomes of a call, given the reply to its request. -/
def result (request : HttpRequest) (operation : Operation) :
    HttpReply → Except RemoteFault Json
  | .unreachable causes =>
      .error (.transport ("error sending request for url (" ++ request.url.text ++ ")") causes)
  | .answered status body =>
      if isSuccess status then valueOf body else .error (.status operation status body)

def endingOf : Except RemoteFault Json → Ending
  | .ok value => .answered value
  | .error fault => .failed fault

variable {σ : Type}

/-- What a call does: it sends its request, if there can be one, and waits for the reply. -/
def conduct (client : HttpClient) (network : Network σ) (call : Call) (state : σ) : Conduct × σ :=
  match client.request call with
  | .error fault => (.immediate (.failed fault), state)
  | .ok request =>
      let (exchange, state) := network request state
      (⟨[], exchange.suspensions,
        some (endingOf (result request call.operation exchange.reply))⟩, state)

def api (client : HttpClient) (network : Network σ) : Api σ := ⟨"http", client.conduct network⟩

end HttpClient

/-! ## A network with its replies laid out -/

structure Transcript where
  replies : List HttpReply
  /-- In the order in which they were made. -/
  requests : List HttpRequest
  deriving DecidableEq

def Transcript.ofReplies (replies : List HttpReply) : Transcript := ⟨replies, []⟩

/-- Answers each request with the next reply, and with a last one when no other is left. -/
def Network.laidOut (last : HttpReply) : Network Transcript := fun request transcript =>
  match transcript.replies with
  | [] => (⟨0, last⟩, ⟨[], transcript.requests ++ [request]⟩)
  | reply :: rest => (⟨0, reply⟩, ⟨rest, transcript.requests ++ [request]⟩)

end EventRules
