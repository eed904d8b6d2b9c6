import EventRules.Url.Path

/-!
# OfText — the resource locator of a text

Controls and blanks at the ends and tabs and line ends everywhere are dropped.  The parts are then
read from left to right and encoded as they are read.  In a known scheme a backslash is as good as a
slash, an authority follows whatever the number of slashes, and the path is never empty.
-/

namespace EventRules
namespace Url

/-! ## Ends of parts -/

def isOuter (c : Char) : Bool := c.toNat ≤ 0x20

/-- The characters of a text that count. -/
def relevant (text : String) : List Char :=
  let trimmed := (text.toList.dropWhile isOuter).reverse.dropWhile isOuter
  trimmed.reverse.filter fun c => !Path.isRemoved c

def isSlash (known : Bool) (c : Char) : Bool := c = '/' || (known && c = '\\')

/-- Whether an authority ends at a character. -/
def endsAuthority (known : Bool) (c : Char) : Bool := isSlash known c || c = '?' || c = '#'

/-! ## Query and fragment -/

/-- Query and fragment, which end a locator. -/
def tail (known : Bool) (cs : List Char) : Option String × Option String :=
  let fragmentOf (rest : List Char) : Option String :=
    match rest with
    | '#' :: rest => some (String.ofList (Percent.encode Percent.inFragment rest))
    | _ => none
  match cs with
  | '?' :: rest =>
      let (query, behind) := rest.span (· != '#')
      (some (String.ofList (Percent.encode (Percent.inQuery known) query)), fragmentOf behind)
  | _ => (none, fragmentOf cs)

/-! ## Path -/

def endsPath (c : Char) : Bool := c = '?' || c = '#'

/-- Splits a path at its slashes. -/
def splitPath (known : Bool) : List Char → List (List Char)
  | [] => [[]]
  | c :: rest =>
      match splitPath known rest with
      | [] => [[c]]
      | segment :: others =>
          if isSlash known c then [] :: segment :: others else (c :: segment) :: others

/-- Reads what follows an authority: a path, a query and a fragment. -/
def withPath (scheme : String) (authority : Option Authority) (cs : List Char) : Url :=
  let known := isKnownScheme scheme
  let (path, behind) := cs.span fun c => !endsPath c
  let (query, fragment) := tail known behind
  let inner :=
    match path with
    | c :: rest => if isSlash known c then rest else path
    | [] => []
  let segments :=
    if path.isEmpty && !known then []
    else Path.ofTexts (scheme == "file") (splitPath known inner)
  ⟨scheme, authority, segments, query, fragment⟩

/-! ## Authority -/

/-- Splits a text at the last sign of a user. -/
def splitUser (cs : List Char) : Option (List Char × List Char) :=
  if cs.contains '@' then
    let (host, user) := cs.reverse.span (· != '@')
    some ((user.drop 1).reverse, host.reverse)
  else none

def encodeUser (cs : List Char) : String := String.ofList (Percent.encode Percent.inUser cs)

/-- The user and the password; an empty password is none. -/
def userOf (cs : List Char) : String × Option String :=
  let (user, behind) := cs.span (· != ':')
  let password := behind.drop 1
  (encodeUser user, if password.isEmpty then none else some (encodeUser password))

/-- Splits a host from what follows it; a colon between brackets belongs to the host. -/
def splitHost (known inBrackets : Bool) : List Char → List Char × List Char
  | [] => ([], [])
  | c :: rest =>
      if (c = ':' && !inBrackets) || endsAuthority known c then ([], c :: rest)
      else
        let inside := if c = '[' then true else if c = ']' then false else inBrackets
        let (host, behind) := splitHost known inside rest
        (c :: host, behind)

/-- The port behind a colon, unless it is the usual one, and what follows it. -/
def readPort (scheme : String) (cs : List Char) : Except UrlFault (Option Nat × List Char) :=
  let (digits, behind) := cs.span Char.isDigit
  let port := Ipv4.digitsValue 10 (digits.map fun c => c.toNat - 0x30)
  let ends :=
    match behind with
    | [] => true
    | c :: _ => endsAuthority true c
  if 65535 < port || !ends then .error .portNumber
  else if digits.isEmpty || usualPort? scheme = some port then .ok (none, behind)
  else .ok (some port, behind)

/-- The host at the beginning of a text, and what follows it. -/
def readHost (scheme : String) (cs : List Char) : Except UrlFault (Option Host × List Char) := do
  let known := isKnownScheme scheme
  let (text, behind) := splitHost known false cs
  if known then
    if text.isEmpty then throw .emptyHost
    else return (some (← Host.ofText text), behind)
  else
    let host ← Host.ofPlainText text
    if host.isNone && behind.head? = some ':' then throw .emptyHost
    else return (host, behind)

/-- Reads an authority and all that follows it. -/
def withAuthority (scheme : String) (cs : List Char) : Except UrlFault Url := do
  let known := isKnownScheme scheme
  let (text, behind) := cs.span fun c => !endsAuthority known c
  let (userText, rest) :=
    match splitUser text with
    | some (user, host) => (some user, host ++ behind)
    | none => (none, cs)
  let endsAtOnce := rest.head?.any (endsAuthority known)
  if userText = some [] && endsAtOnce then throw .emptyHost
  let (user, password) := userOf (userText.getD [])
  let (host, afterHost) ← readHost scheme rest
  let (port, afterPort) ←
    match afterHost with
    | ':' :: digits => readPort scheme digits
    | _ => pure (none, afterHost)
  if host.isNone && (user != "" || password.isSome) then throw .emptyHost
  return withPath scheme (some ⟨user, password, host, port⟩) afterPort

/-! ## Files -/

/-- The host of a file; the local one is none, and so is the letter of a drive. -/
def fileHost (text : List Char) : Except UrlFault (Option Host) := do
  if text.isEmpty then return none
  match ← Host.ofText text with
  | .domain name => return if name = "localhost" then none else some (.domain name)
  | host => return some host

def withFile (cs : List Char) : Except UrlFault Url := do
  let located (host : Option Host) (path : List Char) : Url :=
    withPath "file" (some ⟨"", none, host, none⟩) path
  match cs with
  | a :: b :: rest =>
      if isSlash true a && isSlash true b then
        let (text, behind) := rest.span fun c => !endsAuthority true c
        if Path.isDrive [':', '|'] (String.ofList text) then return located none rest
        else
          let url := located (← fileHost text) behind
          match url.segments with
          | first :: _ =>
              if Path.isDrive [':'] first then return located none behind else return url
          | [] => return url
      else return located none cs
  | _ => return located none cs

/-! ## Texts -/

def isSchemeChar (c : Char) : Bool := c.isAlphanum || c = '+' || c = '-' || c = '.'

/-- The scheme in lower case, and what follows its colon. -/
def readScheme? (cs : List Char) : Option (String × List Char) :=
  match cs with
  | [] => none
  | first :: _ =>
      let (scheme, behind) := cs.span isSchemeChar
      match behind with
      | ':' :: rest =>
          if first.isAlpha then some (String.ofList (scheme.map Char.toLower), rest) else none
      | _ => none

def ofText (text : String) : Except UrlFault Url := do
  match readScheme? (relevant text) with
  | none => throw .relative
  | some (scheme, rest) =>
      if scheme = "file" then withFile rest
      else if isKnownScheme scheme then withAuthority scheme (rest.dropWhile (isSlash true))
      else
        match rest with
        | '/' :: '/' :: behind => withAuthority scheme behind
        | '/' :: _ => return withPath scheme none rest
        | _ => throw .notBase

end Url
end EventRules
