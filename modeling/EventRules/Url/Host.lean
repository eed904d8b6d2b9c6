import EventRules.Number.Numeral
import EventRules.Url.Domain
import EventRules.Url.Percent

/-!
# Host — where a resource locator points

A host is a name, an address of four bytes or an address of eight groups.  Where the scheme is a known
one, a name that ends in a number is an address of four bytes, whose parts may be decimal, octal or
hexadecimal, and a last part may stand for several bytes.

* `Host.ofText`, `Host.ofPlainText` — the host of a text, for known and for other schemes;
* `Host.text` — the written form.
-/

namespace EventRules

inductive Host where
  | domain (name : String)
  | ipv4 (address : Nat)
  | ipv6 (groups : List Nat)
  deriving DecidableEq

/-- Why a text is no resource locator. -/
inductive UrlFault where
  | relative
  | emptyHost
  | internationalName
  | portNumber
  | ipv4Address
  | ipv6Address
  | domainCharacter
  /-- The path does not begin with a slash, so that nothing can be appended to it. -/
  | notBase
  deriving DecidableEq

def UrlFault.message : UrlFault → String
  | .relative => "relative URL without a base"
  | .emptyHost => "empty host"
  | .internationalName => "invalid international domain name"
  | .portNumber => "invalid port number"
  | .ipv4Address => "invalid IPv4 address"
  | .ipv6Address => "invalid IPv6 address"
  | .domainCharacter => "invalid domain character"
  | .notBase => "relative URL with a cannot-be-a-base base"

/-! ## Addresses of four bytes -/

namespace Ipv4

def digitsValue (radix : Nat) (digits : List Nat) : Nat :=
  digits.foldl (fun n d => n * radix + d) 0

/-- A number of a radix; nothing at all is zero. -/
def number? (radix : Nat) (cs : List Char) : Option Nat := do
  let digits ← cs.mapM Percent.hexValue?
  if digits.all (· < radix) then return digitsValue radix digits else none

/-- A part of an address, in the radix that its beginning asks for. -/
def part? (cs : List Char) : Option Nat :=
  match cs with
  | [] => none
  | '0' :: 'x' :: rest => number? 16 rest
  | '0' :: 'X' :: rest => number? 16 rest
  | '0' :: c :: rest => number? 8 (c :: rest)
  | _ => number? 10 cs

/-- The parts of a name, without an empty last one. -/
def parts (name : List Char) : List (List Char) :=
  let all := name.splitOn '.'
  if 1 < all.length && all.getLast? = some [] then all.dropLast else all

def endsInNumber (name : List Char) : Bool :=
  match (parts name).getLast? with
  | none => false
  | some last => (!last.isEmpty && last.all Char.isDigit) || (part? last).isSome

/-- The address of its parts: each is a byte, the last takes up the bytes that are left. -/
def ofNumbers? (numbers : List Nat) : Option Nat := do
  let last ← numbers.getLast?
  let bytes := numbers.dropLast
  if 3 < bytes.length || bytes.any (255 < ·) || Width.count (8 * (4 - bytes.length)) ≤ last then none
  else
    let high := bytes.zipIdx.map fun (b, i) => b <<< (8 * (3 - i))
    return high.foldl (· + ·) last

def ofName? (name : List Char) : Option Nat := do
  ofNumbers? (← (parts name).mapM part?)

def text (address : Nat) : String :=
  ".".intercalate ([3, 2, 1, 0].map fun i => toString ((address >>> (8 * i)) % 256))

end Ipv4

/-! ## Addresses of eight groups -/

namespace Ipv6

/-- A byte in decimal digits, without leading zeros. -/
def byte? (cs : List Char) : Option Nat :=
  if cs.isEmpty || !cs.all Char.isDigit || (1 < cs.length && cs.head? = some '0') then none
  else do
    let n ← Ipv4.number? 10 cs
    if n ≤ 255 then some n else none

/-- The two groups of four decimal bytes. -/
def lastGroups? (cs : List Char) : Option (List Nat) := do
  match ← (cs.splitOn '.').mapM byte? with
  | [a, b, c, d] => return [a * 256 + b, c * 256 + d]
  | _ => none

/-- Reads the groups from the given one on; `gap` is the group at which zeros are left out. -/
def groups? (fuel count : Nat) (gap : Option Nat) (cs : List Char) :
    Option (List Nat × Option Nat) :=
  match fuel, cs with
  | _, [] => some ([], gap)
  | 0, _ => none
  | left + 1, ':' :: rest =>
      if count = 8 || gap.isSome then none
      else do
        let (groups, last) ← groups? left (count + 1) (some (count + 1)) rest
        return (0 :: groups, last)
  | left + 1, cs =>
      if count = 8 then none
      else do
        let digits := (cs.take 4).takeWhile fun c => (Percent.hexValue? c).isSome
        let value ← Ipv4.number? 16 digits
        match cs.drop digits.length with
        | [] => return ([value], gap)
        | '.' :: _ =>
            if digits.isEmpty || 6 < count then none
            else return (← lastGroups? cs, gap)
        | ':' :: rest =>
            if rest.isEmpty then none
            else do
              let (groups, last) ← groups? left (count + 1) gap rest
              return (value :: groups, last)
        | _ => none

/-- All eight groups, with zeros put in at the gap. -/
def fill? : List Nat × Option Nat → Option (List Nat)
  | (groups, none) => if groups.length = 8 then some groups else none
  | (groups, some gap) =>
      if 8 < groups.length then none
      else
        some (groups.take gap ++ List.replicate (8 - groups.length) 0 ++ groups.drop gap)

def ofText? (cs : List Char) : Option (List Nat) := do
  match cs with
  | ':' :: ':' :: rest =>
      let (groups, gap) ← groups? cs.length 1 (some 1) rest
      fill? (0 :: groups, gap)
  | ':' :: _ => none
  | [_] => none
  | [] => none
  | _ => fill? (← groups? cs.length 0 none cs)

/-- How many zeros a list begins with. -/
def leadingZeros (groups : List Nat) : Nat := (groups.takeWhile (· == 0)).length

/-- The first of the longest runs of zeros: where it begins and how long it is. -/
def longestRun (start : Nat) : List Nat → Nat × Nat
  | [] => (start, 0)
  | group :: rest =>
      let here := leadingZeros (group :: rest)
      let (place, length) := longestRun (start + 1) rest
      if length ≤ here then (start, here) else (place, length)

def groupText (group : Nat) : String := String.ofList (Nat.toDigits 16 group)

def groupsText (groups : List Nat) : String := ":".intercalate (groups.map groupText)

/-- The written form, in which the longest run of at least two zeros is left out. -/
def text (groups : List Nat) : String :=
  let (place, length) := longestRun 0 groups
  if length < 2 then groupsText groups
  else groupsText (groups.take place) ++ "::" ++ groupsText (groups.drop (place + length))

/-- The form for readers, which shows an address of four bytes as one. -/
def shownText (groups : List Nat) : String :=
  match groups with
  | [0, 0, 0, 0, 0, 0xffff, high, low] => "::ffff:" ++ Ipv4.text (high * 65536 + low)
  | _ => text groups

end Ipv6

/-! ## Hosts -/

namespace Host

/-- The address between square brackets. -/
def ofBrackets (cs : List Char) : Except UrlFault Host :=
  if cs.getLast? = some ']' then
    match Ipv6.ofText? (cs.drop 1).dropLast with
    | some groups => .ok (.ipv6 groups)
    | none => .error .ipv6Address
  else .error .ipv6Address

/-- The host of a text where the scheme is a known one. -/
def ofText (cs : List Char) : Except UrlFault Host :=
  if cs.head? = some '[' then ofBrackets cs
  else
    match (Percent.decode? cs).bind Domain.toAscii? with
    | none => .error .internationalName
    | some [] => .error .emptyHost
    | some name =>
        if Ipv4.endsInNumber name then
          match Ipv4.ofName? name with
          | some address => .ok (.ipv4 address)
          | none => .error .ipv4Address
        else .ok (.domain (String.ofList name))

def isForbidden (c : Char) : Bool :=
  ['\x00', '\t', '\n', '\r', ' ', '#', '/', ':', '<', '>', '?', '@', '[', '\\', ']', '^', '|'].contains c

/-- The host of a text where the scheme is not known; an empty one is none. -/
def ofPlainText (cs : List Char) : Except UrlFault (Option Host) :=
  if cs.head? = some '[' then some <$> ofBrackets cs
  else if cs.any isForbidden then .error .domainCharacter
  else if cs.isEmpty then .ok none
  else .ok (some (.domain (String.ofList (Percent.encode Percent.isControl cs))))

def text : Host → String
  | .domain name => name
  | .ipv4 address => Ipv4.text address
  | .ipv6 groups => "[" ++ Ipv6.text groups ++ "]"

end Host

end EventRules
