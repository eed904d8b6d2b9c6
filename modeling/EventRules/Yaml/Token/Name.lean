import EventRules.Yaml.Token.Scalar

/-!
# Name — anchors, tags and directives

* `Scan.anchorOrAlias`, `Scan.tag`, `Scan.directive` — each from its first character on.
-/

namespace EventRules
namespace Yaml
namespace Scan

/-! ## Anchors -/

/-- Signs that may follow the name of an anchor. -/
def endsName (c : Option Char) : Bool :=
  endsWord c || (c.map fun d => ['?', ':', ',', ']', '\x7d', '%', '@', '`'].contains d) == some true

def anchorOrAlias (isAlias : Bool) : Scan Unit := do
  let start ← mark
  skip 1
  let name ← takeWhile isWord
  if name.isEmpty || !endsName (← next?) then
    failIn .noName (if isAlias then .alias else .anchor) start
  else
    let name := String.ofList name
    push (if isAlias then .alias name else .anchor name) start

/-! ## Tags -/

/-- The first octet of a character says how many it has. -/
def octetCount (octet : Nat) : Nat :=
  if octet < 0x80 then 1
  else if 0xc0 ≤ octet && octet < 0xe0 then 2
  else if 0xe0 ≤ octet && octet < 0xf0 then 3
  else if 0xf0 ≤ octet && octet < 0xf8 then 4
  else 0

/-- One octet behind a percent sign. -/
def octet (context : Context) (start : Mark) : Scan Nat := do
  let s ← get
  match s.rest with
  | '%' :: a :: b :: _ =>
      match hexValue? a, hexValue? b with
      | some x, some y => return x * 16 + y
      | _, _ => failIn .badOctets context start
  | _ => failIn .badOctets context start

/-- The octets that complete a character. -/
def furtherOctets (context : Context) (start : Mark) : (count : Nat) → (code : Nat) → Scan Nat
  | 0, code => return code
  | count + 1, code => do
      let value ← octet context start
      if value / 64 ≠ 2 then failIn .badFurtherOctet context start
      else
        skip 3
        furtherOctets context start count (code * 64 + value % 64)

/-- A character that is written as octets. -/
def octets (context : Context) (start : Mark) : Scan Char := do
  let first ← octet context start
  let count := octetCount first
  if count = 0 then failIn .badFirstOctet context start
  else
    skip 3
    let lead := if count = 1 then first else first % (1 <<< (7 - count))
    return Char.ofNat (← furtherOctets context start (count - 1) lead)

/-- The characters of tags; between angle brackets there are more. -/
def isTagChar (verbatim : Bool) (c : Char) : Bool :=
  isWord c ||
    [';', '/', '?', ':', '@', '&', '=', '+', '$', '.', '!', '~', '*', '\'', '(', ')', '%'].contains c ||
    (verbatim && [',', '[', ']'].contains c)

/-- The text of a tag behind what has been read of it. -/
def tagText (verbatim : Bool) (context : Context) (head : List Char) (start : Mark) :
    Scan String := do
  let text ← loop (head.drop 1) fun text => do
    match ← next? with
    | some c =>
        if c == '%' then return (text ++ [← octets context start], true)
        else if isTagChar verbatim c then
          skip 1
          return (text ++ [c], true)
        else return (text, false)
    | none => return (text, false)
  if head.isEmpty && text.isEmpty then failIn .noTagText context start
  else return String.ofList text

/-- A handle between exclamation marks, the second of which may be missing in a tag. -/
def tagHandle (inDirective : Bool) (start : Mark) : Scan (List Char) := do
  if !(← isAt '!') then
    failIn .noTagMark (if inDirective then .directive else .tag) start
  else
    skip 1
    let name ← takeWhile isWord
    if ← isAt '!' then
      skip 1
      return '!' :: name ++ ['!']
    else if inDirective && !name.isEmpty then failIn .noTagMark .tagDirectiveHandle start
    else return '!' :: name

/-- The handle and the suffix of a tag. -/
def tagParts (start : Mark) : Scan (String × String) := do
  if (← ahead? 1) == some '<' then
    skip 2
    let suffix ← tagText true .tagText [] start
    if ← isAt '>' then
      skip 1
      return ("", suffix)
    else failIn .noTagEnd .tag start
  else
    let handle ← tagHandle false start
    if 2 ≤ handle.length && handle.getLast? == some '!' then
      return (String.ofList handle, ← tagText false .tagText [] start)
    else
      let suffix ← tagText false .tagText handle start
      return if suffix = "" then ("", "!") else ("!", suffix)

def tag : Scan Unit := do
  let start ← mark
  let (handle, suffix) ← tagParts start
  let found ← next?
  if ((← get).flowLevel ≠ 0 && found == some ',') || endsWord found then
    push (.tag handle suffix) start
  else failIn .noWhitespaceOrBreak .tag start

/-! ## Directives -/

/-- The greatest number of digits in a version. -/
def longestVersion : Nat := 9

def versionNumber (start : Mark) : Scan Nat := do
  let digits := (← get).rest.takeWhile Char.isDigit
  if longestVersion < digits.length then
    skip longestVersion
    failIn .longVersion .versionDirective start
  else if digits.isEmpty then failIn .noVersionNumber .versionDirective start
  else
    skip digits.length
    return digits.foldl (fun n c => n * 10 + (c.toNat - 48)) 0

def versionDirective (start : Mark) : Scan Unit := do
  let _ ← takeWhile isGap
  let major ← versionNumber start
  if !(← isAt '.') then failIn .noVersionPoint .versionDirective start
  else
    skip 1
    let minor ← versionNumber start
    push (.version major minor) start

def handleDirective (start : Mark) : Scan Unit := do
  let _ ← takeWhile isGap
  let handle ← tagHandle true start
  if ((← next?).map isGap) ≠ some true then failIn .noWhitespace .tagDirective start
  else
    let _ ← takeWhile isGap
    let text ← tagText true .tagDirectiveText [] start
    if !endsWord (← next?) then failIn .noWhitespaceOrBreak .tagDirective start
    else push (.tagDirective (String.ofList handle) text) start

def directive : Scan Unit := do
  let start ← mark
  skip 1
  let name ← takeWhile isWord
  if name.isEmpty then failIn .noDirectiveName .directive start
  else if !endsWord (← next?) then failIn .badDirectiveName .directive start
  else
    match String.ofList name with
    | "YAML" => versionDirective start
    | "TAG" => handleDirective start
    | _ => failIn .unknownDirective .directive start
    restOfLine .directiveNotEnded .directive start

end Scan
end Yaml
end EventRules
