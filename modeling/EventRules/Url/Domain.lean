import EventRules.Text.Case
import EventRules.Url.Punycode

/-!
# Domain — host names in ASCII

A name is brought into lower case, its labels are separated, and a label with characters outside of
ASCII is encoded.  A name with a character that no host name may have has no such form.

* `Domain.toAscii?` — the form of a name that is looked up.
-/

namespace EventRules
namespace Domain

/-! ## Characters -/

/-- Characters that leave no trace in a name. -/
def isIgnored (c : Char) : Bool :=
  let n := c.toNat
  n = 0xad || n = 0x34f || n = 0x200b || n = 0x2060 || n = 0x2064 || n = 0xfeff ||
    (0x180b ≤ n && n ≤ 0x180d) || n = 0x180f || (0xfe00 ≤ n && n ≤ 0xfe0f) ||
    (0xe0100 ≤ n && n ≤ 0xe01ef)

/-- A character as it stands in a name: narrow, in lower case, and a full stop for each of its
kinds. -/
def mapChar (c : Char) : List Char :=
  let n := c.toNat
  if isIgnored c then []
  else if n = 0x3002 || n = 0xff61 then ['.']
  else if 0xff01 ≤ n && n ≤ 0xff5e then Text.lowerChar (Char.ofNat (n - 0xfee0))
  else if n = 0x1e9e then ['ß']
  else Text.lowerChar c

/-- Characters that a name may not have: separators, controls, blanks, and what stands for no
character at all. -/
def isForbidden (c : Char) : Bool :=
  let n := c.toNat
  n ≤ 0x20 || (0x7f ≤ n && n ≤ 0xa0) ||
    ['%', '#', '/', ':', '<', '>', '?', '@', '[', '\\', ']', '^', '|'].contains c ||
    n = 0x1680 || (0x2000 ≤ n && n ≤ 0x200a) || n = 0x200e || n = 0x200f ||
    (0x2028 ≤ n && n ≤ 0x202f) || n = 0x205f || n = 0x3000 ||
    (0xe000 ≤ n && n ≤ 0xf8ff) || (0xfdd0 ≤ n && n ≤ 0xfdef) ||
    (0xfff9 ≤ n && n ≤ 0xffff) || 0xe0000 ≤ n

/-! ## Labels -/

def encodedMark : List Char := ['x', 'n', '-', '-']

/-- A label that is marked as encoded stands for a label with characters outside of ASCII. -/
def isWellEncoded (label : List Char) : Bool :=
  if encodedMark.isPrefixOf label then
    match Punycode.decode? (label.drop 4) with
    | some text => !text.all Punycode.isBasic && !text.any isForbidden
    | none => false
  else true

def labelToAscii (label : List Char) : List Char :=
  if label.all Punycode.isBasic then label else encodedMark ++ Punycode.encode label

def toAscii? (name : List Char) : Option (List Char) :=
  let mapped := name.flatMap mapChar
  let labels := mapped.splitOn '.'
  if mapped.any isForbidden || !labels.all isWellEncoded then none
  else some (List.intercalate ['.'] (labels.map labelToAscii))

end Domain
end EventRules
