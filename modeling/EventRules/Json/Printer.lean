import EventRules.Json.Basic

/-!
# Printer — the text of a value

* `Json.compact` — without spaces;
* `Json.pretty` — one entry per line, two spaces per level.

Strings escape the quote, the backslash and the characters below the space; all others stand for
themselves.
-/

namespace EventRules
namespace Json

/-- The four hexadecimal digits of a control character. -/
def controlDigits (n : Nat) : List Char :=
  ['0', '0'] ++ (if n < 16 then ['0'] else []) ++ Nat.toDigits 16 n

def escapedChar (c : Char) : List Char :=
  if c = '"' then ['\\', '"']
  else if c = '\\' then ['\\', '\\']
  else if c = '\n' then ['\\', 'n']
  else if c = '\r' then ['\\', 'r']
  else if c = '\t' then ['\\', 't']
  else if c = '\x08' then ['\\', 'b']
  else if c = '\x0c' then ['\\', 'f']
  else if c.toNat < 0x20 then ['\\', 'u'] ++ controlDigits c.toNat
  else [c]

def stringText (s : String) : String :=
  String.ofList ('"' :: s.toList.flatMap escapedChar ++ ['"'])

def boolText (b : Bool) : String := if b then "true" else "false"

mutual

def compact : Json → String
  | .null => "null"
  | .bool b => boolText b
  | .number n => n.toText
  | .string s => stringText s
  | .array items => "[" ++ compactItems items ++ "]"
  | .object entries => "\x7b" ++ compactEntries entries ++ "\x7d"

def compactItems : List Json → String
  | [] => ""
  | [item] => item.compact
  | item :: rest => item.compact ++ "," ++ compactItems rest

def compactEntries : List (String × Json) → String
  | [] => ""
  | [(name, value)] => stringText name ++ ":" ++ value.compact
  | (name, value) :: rest =>
      stringText name ++ ":" ++ value.compact ++ "," ++ compactEntries rest

end

def indent (level : Nat) : String := String.ofList (List.replicate (2 * level) ' ')

mutual

/-- The text of a value that stands at a level of indentation. -/
def prettyAt (level : Nat) : Json → String
  | .array [] => "[]"
  | .object [] => "\x7b\x7d"
  | .array items => "[\n" ++ prettyItems (level + 1) items ++ "\n" ++ indent level ++ "]"
  | .object entries =>
      "\x7b\n" ++ prettyEntries (level + 1) entries ++ "\n" ++ indent level ++ "\x7d"
  | other => other.compact

def prettyItems (level : Nat) : List Json → String
  | [] => ""
  | [item] => indent level ++ item.prettyAt level
  | item :: rest => indent level ++ item.prettyAt level ++ ",\n" ++ prettyItems level rest

def prettyEntries (level : Nat) : List (String × Json) → String
  | [] => ""
  | [(name, value)] => indent level ++ stringText name ++ ": " ++ value.prettyAt level
  | (name, value) :: rest =>
      indent level ++ stringText name ++ ": " ++ value.prettyAt level ++ ",\n" ++
        prettyEntries level rest

end

def pretty (value : Json) : String := value.prettyAt 0

end Json

end EventRules
