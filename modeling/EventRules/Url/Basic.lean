import EventRules.Text.Quoted
import EventRules.Url.Host

/-!
# Url — resource locators that a path can be appended to

A locator has a scheme, perhaps an authority, a path of segments, and perhaps a query and a fragment.
All parts are kept in their encoded form.

* `Url.text` — the written form;
* `Url.describe` — the parts by name.
-/

namespace EventRules

structure Authority where
  user : String
  password : Option String
  host : Option Host
  /-- Absent if it is the usual one of the scheme. -/
  port : Option Nat
  deriving DecidableEq

structure Url where
  scheme : String
  authority : Option Authority
  /-- Each segment follows a slash; there may be none at all. -/
  segments : List String
  query : Option String
  fragment : Option String
  deriving DecidableEq

namespace Authority

def userText (authority : Authority) : String :=
  let password :=
    match authority.password with
    | some password => ":" ++ password
    | none => ""
  if authority.user = "" && authority.password.isNone then ""
  else authority.user ++ password ++ "@"

def hostText (authority : Authority) : String :=
  match authority.host with
  | some host => host.text
  | none => ""

def portText (authority : Authority) : String :=
  match authority.port with
  | some port => ":" ++ toString port
  | none => ""

def text (authority : Authority) : String :=
  "//" ++ authority.userText ++ authority.hostText ++ authority.portText

end Authority

namespace Url

/-! ## Schemes -/

/-- Schemes whose locators have an authority and a path. -/
def isKnownScheme (scheme : String) : Bool :=
  ["http", "https", "ws", "wss", "ftp", "file"].contains scheme

def usualPort? (scheme : String) : Option Nat :=
  if scheme = "http" || scheme = "ws" then some 80
  else if scheme = "https" || scheme = "wss" then some 443
  else if scheme = "ftp" then some 21
  else none

def isKnown (url : Url) : Bool := isKnownScheme url.scheme

/-! ## Written form -/

def pathText (segments : List String) : String := String.join (segments.map ("/" ++ ·))

/-- The path of a locator without an authority must not look like one. -/
def guardText (url : Url) : String :=
  match url.authority, url.segments with
  | none, "" :: _ :: _ => "/."
  | _, _ => ""

def partText (mark : String) : Option String → String
  | some part => mark ++ part
  | none => ""

def text (url : Url) : String :=
  url.scheme ++ ":" ++
    (match url.authority with
      | some authority => authority.text
      | none => "") ++
    url.guardText ++ pathText url.segments ++ partText "?" url.query ++ partText "#" url.fragment

/-! ## Description -/

def shownOption (shown : String → String) : Option String → String
  | some value => "Some(" ++ shown value ++ ")"
  | none => "None"

def shownHost : Host → String
  | .domain name => "Domain(" ++ Text.quoted name ++ ")"
  | .ipv4 address => "Ipv4(" ++ Ipv4.text address ++ ")"
  | .ipv6 groups => "Ipv6(" ++ Ipv6.shownText groups ++ ")"

def describe (url : Url) : String :=
  let user := (url.authority.map Authority.user).getD ""
  let password := url.authority.bind Authority.password
  let host := url.authority.bind Authority.host
  let port := url.authority.bind Authority.port
  "Url \x7b scheme: " ++ Text.quoted url.scheme ++
    ", cannot_be_a_base: false" ++
    ", username: " ++ Text.quoted user ++
    ", password: " ++ shownOption Text.quoted password ++
    ", host: " ++ shownOption id (host.map shownHost) ++
    ", port: " ++ shownOption id (port.map toString) ++
    ", path: " ++ Text.quoted (pathText url.segments) ++
    ", query: " ++ shownOption Text.quoted url.query ++
    ", fragment: " ++ shownOption Text.quoted url.fragment ++ " \x7d"

end Url

end EventRules
