import EventRules.Number.Numeral
import EventRules.Template.Token.Basic

/-!
# Literal — numbers, names and strings in a template

Each function takes the characters from the first one of the literal on, and answers the token and
the characters behind it.

* `Token.number` — integers in four bases and decimal numerals, underscores between the digits;
* `Token.quoted` — strings between single or double quotes;
* `Token.word?` — names of ASCII letters, digits and underscores.
-/

namespace EventRules
namespace Template
namespace Token

/-! ## Numbers -/

/-- Which part of a number has been reached. -/
inductive Part where
  | based (hexadecimal : Bool)
  | whole
  | fraction
  | exponent
  | exponentDigits
  deriving DecidableEq

def isHexLetter (c : Char) : Bool := ('a' ≤ c && c ≤ 'f') || ('A' ≤ c && c ≤ 'F')

/-- The part that another character of a number leads to. -/
def Part.next? (part : Part) (c : Char) : Option Part :=
  if c = '_' then some part
  else if c.isDigit then
    match part with
    | .exponent => some .exponentDigits
    | _ => some part
  else
    match part with
    | .based hexadecimal => if hexadecimal && isHexLetter c then some part else none
    | .whole =>
        if c = '.' then some .fraction
        else if c = 'e' || c = 'E' then some .exponent
        else none
    | .fraction => if c = 'e' || c = 'E' then some .exponent else none
    | .exponent => if c = '+' || c = '-' then some .exponentDigits else none
    | .exponentDigits => none

/-- The characters of a number, the part it ends in and what follows it. -/
def spanNumber (part : Part) : List Char → List Char × Part × List Char
  | [] => ([], part, [])
  | c :: rest =>
      match part.next? c with
      | some next =>
          let (digits, last, after) := spanNumber next rest
          (c :: digits, last, after)
      | none => ([], part, c :: rest)

def digitOfBase? (base : Nat) (c : Char) : Option Nat :=
  let value :=
    if c.isDigit then some (c.toNat - 48)
    else if 'a' ≤ c ∧ c ≤ 'f' then some (c.toNat - 87)
    else if 'A' ≤ c ∧ c ≤ 'F' then some (c.toNat - 55)
    else none
  value.filter (· < base)

def natOfBase? (base : Nat) (digits : List Char) : Option Nat :=
  if digits.isEmpty then none
  else (digits.mapM (digitOfBase? base)).map fun values =>
    values.foldl (fun n d => n * base + d) 0

/-- The integers that a literal can stand for are below this. -/
def integerLimit : Nat := Width.count 128

/-- The base that a number is written in, and its characters behind the mark of the base. -/
def splitBase : List Char → Nat × List Char
  | '0' :: 'b' :: rest | '0' :: 'B' :: rest => (2, rest)
  | '0' :: 'o' :: rest | '0' :: 'O' :: rest => (8, rest)
  | '0' :: 'x' :: rest | '0' :: 'X' :: rest => (16, rest)
  | cs => (10, cs)

def number (cs : List Char) : Except Fault (Token × List Char) :=
  let (base, body) := splitBase cs
  let start := if base = 10 then Part.whole else Part.based (base == 16)
  let (written, last, rest) := spanNumber start body
  if written.getLast? = some '_' then .error (.malformed "'_' may not occur at end of number")
  else
    let digits := written.filter (· ≠ '_')
    match last with
    | .whole | .based _ =>
        match (natOfBase? base digits).filter (· < integerLimit) with
        | some n => .ok (.integer n, rest)
        | none => .error (.malformed "invalid integer (too large)")
    | _ =>
        match Numeral.ofChars? digits with
        | some x => .ok (.float x, rest)
        | none => .error (.malformed "invalid float")

/-! ## Strings -/

/-- The characters up to an unescaped quote, whether a backslash is among them, and what follows the
quote. -/
def spanQuoted (quote : Char) : List Char → Option (List Char × Bool × List Char)
  | [] => none
  | '\\' :: [] => none
  | '\\' :: c :: rest =>
      (spanQuoted quote rest).map fun (body, _, after) => ('\\' :: c :: body, true, after)
  | c :: rest =>
      if c = quote then some ([], false, rest)
      else (spanQuoted quote rest).map fun (body, escaped, after) => (c :: body, escaped, after)

/-- The number of the four hexadecimal digits at the front. -/
def fourDigits? (cs : List Char) : Option Nat :=
  let digits := cs.take 4
  if digits.length = 4 then natOfBase? 16 digits else none

def isSurrogate (n : Nat) : Bool := 0xd800 ≤ n && n ≤ 0xdfff

/-- Replaces the escapes of a string; `pending` is the first half of a character that needs two. -/
def unescape (pending : Option Nat) : List Char → Option (List Char)
  | [] => if pending.isNone then some [] else none
  | '\\' :: 'u' :: a :: b :: c :: d :: rest => do
      let n ← fourDigits? [a, b, c, d]
      match pending with
      | none =>
          if isSurrogate n then unescape (some n) rest
          else return Char.ofNat n :: (← unescape none rest)
      | some high =>
          if high < 0xdc00 ∧ 0xdc00 ≤ n ∧ n ≤ 0xdfff then
            let code := 0x10000 + (high - 0xd800) * 0x400 + (n - 0xdc00)
            return Char.ofNat code :: (← unescape none rest)
          else none
  | '\\' :: c :: rest =>
      if pending.isSome then none
      else do
        let meaning ←
          match c with
          | '"' | '\\' | '/' | '\'' => some c
          | 'b' => some '\x08'
          | 'f' => some '\x0c'
          | 'n' => some '\n'
          | 'r' => some '\r'
          | 't' => some '\t'
          | _ => none
        return meaning :: (← unescape none rest)
  | c :: rest =>
      if pending.isSome || c = '\\' then none
      else do return c :: (← unescape none rest)

/-- A string behind its opening quote. -/
def quoted (quote : Char) (cs : List Char) : Except Fault (Token × List Char) :=
  match spanQuoted quote cs with
  | none => .error (.malformed "unexpected end of string")
  | some (body, escaped, rest) =>
      if escaped then
        match unescape none body with
        | some meaning => .ok (.string (String.ofList meaning), rest)
        | none => .error (.ofKind .badEscape)
      else .ok (.string (String.ofList body), rest)

/-! ## Names -/

def startsWord (c : Char) : Bool := c = '_' || c.isAlpha

def inWord (c : Char) : Bool := c = '_' || c.isAlphanum

def word? : List Char → Option (Token × List Char)
  | [] => none
  | c :: rest =>
      if startsWord c then
        some (.name (String.ofList (c :: rest.takeWhile inWord)), rest.dropWhile inWord)
      else none

end Token
end Template
end EventRules
