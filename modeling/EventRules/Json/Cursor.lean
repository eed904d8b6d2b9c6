import EventRules.Decode.Source

/-!
# Cursor — a place in a JSON text and what can be wrong there

* `Cursor` — the characters that are left, and the line and column (in bytes) of the place;
* `Malformed` — the ways in which a text is no JSON, with their wording;
* `TextReader` — a reader that moves a cursor; after a fault the cursor stays where the fault was
  found, because closing brackets decide which place is reported.
-/

namespace EventRules
namespace Json

inductive Malformed where
  | endInList
  | endInObject
  | endInString
  | endInValue
  | expectedColon
  | expectedCommaOrBracket
  | expectedCommaOrBrace
  | expectedIdentifier
  | expectedValue
  | invalidEscape
  | invalidNumber
  | numberOutOfRange
  | controlCharacter
  | nameNotString
  | loneSurrogate
  | trailingComma
  | trailingCharacters
  | brokenEscape
  | tooDeep
  deriving DecidableEq

def Malformed.message : Malformed → String
  | .endInList => "EOF while parsing a list"
  | .endInObject => "EOF while parsing an object"
  | .endInString => "EOF while parsing a string"
  | .endInValue => "EOF while parsing a value"
  | .expectedColon => "expected `:`"
  | .expectedCommaOrBracket => "expected `,` or `]`"
  | .expectedCommaOrBrace => "expected `,` or `\x7d`"
  | .expectedIdentifier => "expected ident"
  | .expectedValue => "expected value"
  | .invalidEscape => "invalid escape"
  | .invalidNumber => "invalid number"
  | .numberOutOfRange => "number out of range"
  | .controlCharacter => "control character (\\u0000-\\u001F) found while parsing a string"
  | .nameNotString => "key must be a string"
  | .loneSurrogate => "lone leading surrogate in hex escape"
  | .trailingComma => "trailing comma"
  | .trailingCharacters => "trailing characters"
  | .brokenEscape => "unexpected end of hex escape"
  | .tooDeep => "recursion limit exceeded"

/-- A line, counted from one, and the bytes before the place on that line. -/
structure Position where
  line : Nat
  column : Nat
  deriving DecidableEq

inductive Problem where
  | malformed (m : Malformed)
  | cause (c : Cause)
  deriving DecidableEq

def Problem.message : Problem → String
  | .malformed m => m.message
  | .cause c => c.message wording

/-- A problem, and the place where it shows if there is one. -/
structure Fault where
  problem : Problem
  at? : Option Position
  deriving DecidableEq

def Fault.message (fault : Fault) : String :=
  match fault.at? with
  | none => fault.problem.message
  | some place =>
      fault.problem.message ++ " at line " ++ toString place.line ++ " column " ++
        toString place.column

structure Cursor where
  rest : List Char
  place : Position
  /-- How many more brackets may be opened, plus one. -/
  depth : Nat

/-- The place after a character. -/
def Position.after (place : Position) (c : Char) : Position :=
  if c = '\n' then ⟨place.line + 1, 0⟩ else ⟨place.line, place.column + c.utf8Size⟩

/-- The place one byte further: the first byte of a longer character counts as one. -/
def Position.afterByte (place : Position) (c : Char) : Position :=
  if c = '\n' then ⟨place.line + 1, 0⟩ else ⟨place.line, place.column + 1⟩

/-- The greatest nesting is one below this. -/
def depthLimit : Nat := 128

def Cursor.start (text : String) : Cursor := ⟨text.toList, ⟨1, 0⟩, depthLimit⟩

abbrev TextReader := ExceptT Fault (StateM Cursor)

end Json

namespace Json.TextReader

variable {α : Type}

def peek? : TextReader (Option Char) := do return (← get).rest.head?

def peekIs (c : Char) : TextReader Bool := do return (← peek?) == some c

/-- Moves over one character. -/
def advance : TextReader Unit :=
  modify fun cursor =>
    match cursor.rest with
    | [] => cursor
    | c :: rest => { cursor with rest := rest, place := cursor.place.after c }

/-- A malformed text, reported behind the byte that stands at the cursor. -/
def malformedNext (m : Malformed) : TextReader α := do
  let cursor ← get
  let place :=
    match cursor.rest with
    | [] => cursor.place
    | c :: _ => cursor.place.afterByte c
  throw ⟨.malformed m, some place⟩

/-- A malformed text, reported at the cursor. -/
def malformedHere (m : Malformed) : TextReader α := do
  throw ⟨.malformed m, some (← get).place⟩

/-- A cause without a place. -/
def fail (cause : Cause) : TextReader α := throw ⟨.cause cause, none⟩

/-- Gives a fault that has no place the place of the cursor. -/
def located (reader : TextReader α) : TextReader α :=
  tryCatch reader fun fault => do
    let cursor ← get
    throw { fault with at? := fault.at? <|> some cursor.place }

def isSpace (c : Char) : Bool := c = ' ' || c = '\n' || c = '\t' || c = '\r'

/-- The cursor behind the white space that it stands at. -/
def pastSpace (place : Position) : List Char → List Char × Position
  | [] => ([], place)
  | c :: rest => if isSpace c then pastSpace (place.after c) rest else (c :: rest, place)

def skipSpace : TextReader Unit :=
  modify fun cursor =>
    let (rest, place) := pastSpace cursor.place cursor.rest
    { cursor with rest := rest, place := place }

/-- The next character that is not white space; the cursor stops before it. -/
def peekToken? : TextReader (Option Char) := do
  skipSpace
  peek?

/-- The length of the text that is left: no loop over the text takes more steps. -/
def remaining : TextReader Nat := do return (← get).rest.length

/-- Reads something, and something else whether or not that succeeds; the first fault wins. -/
def andThen (reader : TextReader α) (close : TextReader Unit) : TextReader α := fun cursor =>
  match reader cursor with
  | (.ok a, after) =>
      match close after with
      | (.ok (), closed) => (.ok a, closed)
      | (.error fault, closed) => (.error fault, closed)
  | (.error fault, after) => (.error fault, (close after).2)

end Json.TextReader

end EventRules
