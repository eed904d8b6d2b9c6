import EventRules.Remote.Http

/-!
# Wire — requests and replies as they are sent

A request asks that the connection be closed behind the reply, so that a reply that does not say how
long it is ends where the connection does.

* `HttpRequest.wire` — what is sent for a request;
* `HttpReply.ofWire` — the reply that was received.
-/

namespace EventRules

abbrev Bytes := List UInt8

/-! ## Requests -/

namespace HttpRequest

/-- The part of the locator that the server is told. -/
def target (request : HttpRequest) : String :=
  let path := Url.pathText request.url.segments
  (if path = "" then "/" else path) ++ Url.partText "?" request.url.query

/-- The host of the locator, as it is written there. -/
def host (request : HttpRequest) : String := (request.url.authority.map Authority.hostText).getD ""

def port (request : HttpRequest) : Nat :=
  ((request.url.authority.bind Authority.port).orElse fun _ =>
    Url.usualPort? request.url.scheme).getD 0

def headers (request : HttpRequest) (length : Nat) : List (String × String) :=
  [("content-type", "application/json")] ++
    request.authorization.map (fun value => ("authorization", value)) ++
    [("accept", "*/*"),
      ("host", request.host ++ (request.url.authority.map Authority.portText).getD ""),
      ("content-length", toString length),
      ("connection", "close")]

def wire (request : HttpRequest) : Bytes :=
  let body := request.body.compact.toUTF8.toList
  let first := request.method.name ++ " " ++ request.target ++ " HTTP/1.1\r\n"
  let lines := (request.headers body.length).map fun (name, value) => name ++ ": " ++ value ++ "\r\n"
  (first ++ String.join lines ++ "\r\n").toUTF8.toList ++ body

end HttpRequest

/-! ## Replies -/

namespace HttpReply

def asciiText (bytes : Bytes) : String := String.ofList (bytes.map fun b => Char.ofNat b.toNat)

/-- The first line and what follows it. -/
def takeLine : Bytes → Bytes × Bytes
  | [] => ([], [])
  | 13 :: 10 :: rest => ([], rest)
  | b :: rest =>
      let (line, behind) := takeLine rest
      (b :: line, behind)

/-- The lines up to an empty one, and what follows that. -/
def headLines (line : Bytes) : Bytes → List String × Bytes
  | [] => ([asciiText line.reverse], [])
  | 13 :: 10 :: rest =>
      if line.isEmpty then ([], rest)
      else
        let (lines, body) := headLines [] rest
        (asciiText line.reverse :: lines, body)
  | b :: rest => headLines (b :: line) rest

/-- The status in a first line. -/
def status? (line : String) : Option Nat :=
  match (line.toList.splitOn ' ').map String.ofList with
  | _ :: code :: _ => code.toNat?
  | _ => none

/-- The value of a header, in lower case. -/
def header? (name : String) (lines : List String) : Option String :=
  lines.findSome? fun line =>
    let (left, right) := line.toList.span (· != ':')
    if left.map Char.toLower = name.toList then
      some (String.ofList (Text.trimChars ((right.drop 1).map Char.toLower)))
    else none

/-- The hexadecimal number at the front of a line. -/
def leadingHex (line : String) : Nat :=
  let digits := line.toList.takeWhile fun c => (Percent.hexValue? c).isSome
  digits.foldl (fun n c => n * 16 + (Percent.hexValue? c).getD 0) 0

/-- A body that comes in chunks, each behind a line with its length. -/
def joinChunks : (fuel : Nat) → Bytes → Bytes
  | 0, _ => []
  | fuel + 1, bytes =>
      let (line, rest) := takeLine bytes
      match leadingHex (asciiText line) with
      | 0 => []
      | length => rest.take length ++ joinChunks fuel (rest.drop (length + 2))

def bodyOf (lines : List String) (rest : Bytes) : Bytes :=
  if header? "transfer-encoding" lines = some "chunked" then joinChunks rest.length rest
  else
    match (header? "content-length" lines).bind String.toNat? with
    | some length => rest.take length
    | none => rest

def bodyText (bytes : Bytes) : String :=
  (String.fromUTF8? ⟨bytes.toArray⟩).getD (asciiText bytes)

/-- The reply that some bytes are; other bytes count as none. -/
def ofWire (bytes : Bytes) : HttpReply :=
  let (lines, rest) := headLines [] bytes
  match lines.head?.bind status? with
  | some status => .answered status (bodyText (bodyOf lines rest))
  | none => .unreachable ["client error (SendRequest)", "connection closed before message completed"]

end HttpReply
end EventRules
