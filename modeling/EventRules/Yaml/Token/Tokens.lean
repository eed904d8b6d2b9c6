import EventRules.Yaml.Token.Name

/-!
# Tokens — the tokens of a document

A key is known to be one only when its colon is found, so that tokens behind the beginning of a
possible key are not settled before that.  Such a key has to stand on one line and be short.  Blocks
begin and end where the indentation grows and shrinks.

* `Tokens.ofText` — the tokens that are settled before the first fault, and that fault.
-/

namespace EventRules
namespace Yaml

structure Tokens where
  tokens : List Placed
  fault : Option Malformed

namespace Scan

/-! ## Indentation -/

/-- Adds a token that covers nothing, in front of the token of some number. -/
def insertAt (number : Nat) (token : Token) (place : Mark) : Scan Unit :=
  modify fun s =>
    { s with tokens := s.tokens.take number ++ ⟨token, place, place⟩ :: s.tokens.drop number }

/-- Begins a block in front of a token if it is indented more than the innermost block. -/
def openBlock (column number : Nat) (token : Token) (place : Mark) : Scan Unit := do
  let s ← get
  if s.flowLevel = 0 ∧ (s.indent.map fun n => decide (n < column)).getD true then
    set { s with indent := some column, outer := s.indent :: s.outer }
    insertAt number token place

/-- Ends the blocks that are indented more than a column; with none, all blocks. -/
def closeBlocks (column : Option Nat) : Scan Unit := do
  let s ← get
  if s.flowLevel = 0 then
    let rec close : List (Option Nat) → Option Nat → List Placed → Scanner
      | [], indent, ends => { s with indent := indent, outer := [], tokens := s.tokens ++ ends }
      | around :: outer, indent, ends =>
          let isInside :=
            match indent, column with
            | some n, some c => decide (c < n)
            | some _, none => true
            | none, _ => false
          if isInside then close outer around (⟨.blockEnd, s.mark, s.mark⟩ :: ends)
          else { s with indent := indent, outer := around :: outer, tokens := s.tokens ++ ends }
    set (close s.outer s.indent [])

/-! ## Pending keys -/

/-- The greatest number of characters in front of the colon of a key on the same line. -/
def longestKey : Nat := 1024

def isStale (mark : Mark) (key : PendingKey) : Bool :=
  key.mark.line < mark.line || key.mark.index + longestKey < mark.index

/-- Gives up the keys that can no longer get a colon. -/
def dropStaleKeys : Scan Unit := do
  let s ← get
  match s.pending.reverse.find? fun key? =>
      (key?.map fun key => isStale s.mark key && key.required) == some true with
  | some (some key) => failIn .noKeyEnd .simpleKey key.mark
  | _ => set { s with pending := s.pending.map (Option.filter fun key => !isStale s.mark key) }

def dropKey : Scan Unit := do
  let s ← get
  match s.pending with
  | some key :: rest =>
      if key.required then failIn .noKeyEnd .simpleKey key.mark
      else set { s with pending := none :: rest }
  | _ => return ()

/-- Notes that a key may begin here. -/
def noteKey : Scan Unit := do
  let s ← get
  if s.keyAllowed then
    dropKey
    let required := s.flowLevel == 0 && s.indent == some s.mark.column
    modify fun s =>
      { s with pending := some ⟨required, s.tokens.length, s.mark⟩ :: s.pending.drop 1 }

def allowKey (allowed : Bool) : Scan Unit := modify fun s => { s with keyAllowed := allowed }

/-! ## Single tokens -/

/-- A token of some characters. -/
def sign (token : Token) (length : Nat) : Scan Unit := do
  let start ← mark
  skip length
  push token start

def inBlock : Scan Bool := do return (← get).flowLevel == 0

def documentSign (token : Token) : Scan Unit := do
  closeBlocks none
  dropKey
  allowKey false
  sign token 3

def openBracket (token : Token) : Scan Unit := do
  noteKey
  modify fun s => { s with pending := none :: s.pending, flowLevel := s.flowLevel + 1 }
  allowKey true
  sign token 1

def closeBracket (token : Token) : Scan Unit := do
  dropKey
  modify fun s =>
    if s.flowLevel = 0 then s
    else { s with pending := s.pending.drop 1, flowLevel := s.flowLevel - 1 }
  allowKey false
  sign token 1

def flowEntry : Scan Unit := do
  dropKey
  allowKey true
  sign .flowEntry 1

/-- Begins a block at a sign that has to stand where a key may begin. -/
def blockSign (problem : Problem) (block : Token) : Scan Unit := do
  let s ← get
  if s.flowLevel = 0 then
    if !s.keyAllowed then fail problem
    else openBlock s.mark.column s.tokens.length block s.mark

def blockEntry : Scan Unit := do
  blockSign .entryNotAllowed .blockSequenceStart
  dropKey
  allowKey true
  sign .blockEntry 1

def key : Scan Unit := do
  blockSign .keyNotAllowed .blockMapStart
  dropKey
  allowKey (← inBlock)
  sign .key 1

def value : Scan Unit := do
  let s ← get
  match s.pending with
  | some key :: rest =>
      insertAt key.number .key key.mark
      openBlock key.mark.column key.number .blockMapStart key.mark
      modify fun s => { s with pending := none :: rest }
      allowKey false
  | _ =>
      blockSign .valueNotAllowed .blockMapStart
      allowKey (← inBlock)
  sign .value 1

/-! ## The next token -/

/-- Moves over blanks, comments and line ends. -/
def toNextToken : Scan Unit :=
  loop () fun _ => do
    let s ← get
    if s.mark.column = 0 && s.rest.head? == some '\ufeff' then skip 1
    let tabs := s.flowLevel ≠ 0 || !s.keyAllowed
    let _ ← takeWhile fun c => c == ' ' || (tabs && c == '\t')
    if ← isAt '#' then
      let _ ← takeWhile fun c => !isBreak c
    if ((← next?).map isBreak) == some true then
      let _ ← takeBreak
      if ← inBlock then allowKey true
      return ((), true)
    else return ((), false)

def streamEnd : Scan Unit := do
  modify fun s =>
    if s.mark.column = 0 then s
    else { s with mark := { s.mark with line := s.mark.line + 1, column := 0 } }
  closeBlocks none
  dropKey
  allowKey false
  push .streamEnd (← mark)
  modify fun s => { s with finished := true }

/-- Signs that cannot begin a plain scalar. -/
def startsNoPlain (c : Char) : Bool :=
  endsWord (some c) ||
    ['-', '?', ':', ',', '[', ']', '\x7b', '\x7d', '#', '&', '*', '!', '|', '>', '\'', '"', '%', '@',
      '`'].contains c

/-- A scalar of a style, which may be a key or not. -/
def keyed (scan : Scan Unit) : Scan Unit := do
  noteKey
  allowKey false
  scan

def block (literal : Bool) : Scan Unit := do
  dropKey
  allowKey true
  blockScalar literal

/-- The tokens that begin at the next sign. -/
def nextToken : Scan Unit := do
  toNextToken
  dropStaleKeys
  closeBlocks (some (← mark).column)
  let s ← get
  let following := s.rest[1]?
  match s.rest with
  | [] => streamEnd
  | c :: _ =>
      let flow := s.flowLevel ≠ 0
      if s.mark.column = 0 && c == '%' then
        closeBlocks none
        dropKey
        allowKey false
        directive
      else if ← atDocumentMark '-' then documentSign .documentStart
      else if ← atDocumentMark '.' then documentSign .documentEnd
      else if c == '[' then openBracket .flowSequenceStart
      else if c == '\x7b' then openBracket .flowMapStart
      else if c == ']' then closeBracket .flowSequenceEnd
      else if c == '\x7d' then closeBracket .flowMapEnd
      else if c == ',' then flowEntry
      else if c == '-' && endsWord following then blockEntry
      else if c == '?' && (flow || endsWord following) then key
      else if c == ':' && (flow || endsWord following) then value
      else if c == '*' then keyed (anchorOrAlias true)
      else if c == '&' then keyed (anchorOrAlias false)
      else if c == '!' then keyed tag
      else if c == '|' && !flow then block true
      else if c == '>' && !flow then block false
      else if c == '\'' then keyed (quotedScalar true)
      else if c == '"' then keyed (quotedScalar false)
      else if !startsNoPlain c || (c == '-' && (following.map isGap) ≠ some true) ||
          (!flow && (c == '?' || c == ':') && !endsWord following) then keyed plainScalar
      else failIn .unusableCharacter .nextToken s.mark

end Scan

namespace Tokens

def start (text : List Char) : Scanner where
  rest := text
  mark := Mark.start
  tokens := [⟨.streamStart, Mark.start, Mark.start⟩]
  flowLevel := 0
  indent := none
  outer := []
  keyAllowed := true
  pending := [none]
  finished := false

/-- How many tokens are settled: those in front of the first one that may be a key. -/
def settled (s : Scanner) : Nat :=
  s.pending.foldl (fun n key? => (key?.map fun key => min n key.number).getD n) s.tokens.length

/-- All tokens from a state on, of which `known` tokens are settled. -/
def collect : (steps : Nat) → (known : Nat) → Scanner → Tokens
  | 0, known, s => ⟨s.tokens.take known, none⟩
  | steps + 1, known, s =>
      match Scan.dropStaleKeys.run s with
      | .error fault => ⟨s.tokens.take known, some fault⟩
      | .ok ((), s) =>
          if s.finished then ⟨s.tokens, none⟩
          else
            match Scan.nextToken.run s with
            | .error fault => ⟨s.tokens.take (settled s), some fault⟩
            | .ok ((), next) => collect steps (settled s) next

/-- Characters that a document may hold. -/
def isAllowed (c : Char) : Bool :=
  let n := c.toNat
  n == 0x09 || n == 0x0a || n == 0x0d || (0x20 ≤ n && n ≤ 0x7e) || n == 0x85 ||
    (0xa0 ≤ n && n ≤ 0xd7ff) || (0xe000 ≤ n && n ≤ 0xfffd) || 0x10000 ≤ n

/-- The fault of the first character that is not allowed, where so many bytes precede the text. -/
def controlFault? : (position : Nat) → List Char → Option Malformed
  | _, [] => none
  | position, c :: rest =>
      if isAllowed c then controlFault? (position + c.utf8Size) rest
      else some ⟨.controlCharacter, Mark.start, position, none⟩

/-- The tokens of a text; a byte order mark at its beginning is not part of it. -/
def ofText (text : String) : Tokens :=
  match controlFault? 0 text.toList with
  | some fault => ⟨[], some fault⟩
  | none =>
      let cs :=
        match text.toList with
        | '\ufeff' :: rest => rest
        | cs => cs
      collect (cs.length + 2) 0 (start cs)

end Tokens

end Yaml
end EventRules
