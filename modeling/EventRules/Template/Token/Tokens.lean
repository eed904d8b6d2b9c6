import EventRules.Template.Token.Literal
import EventRules.Text.Basic

/-!
# Tokens — the tokens of a template and of an expression

Between `{{` and `}}` stands an output, between `{%` and `%}` a block, between `{#` and `#}` a
comment.  A minus next to one of these marks takes away the white space on its outer side.  A closing
mark closes only where no bracket is open.  The contents of a `raw` block are text.  One line end at
the end of a source is dropped.

* `Tokens.ofTemplate` — the tokens of a text with outputs and blocks;
* `Tokens.ofExpression` — the tokens of what stands in an output.
-/

namespace EventRules
namespace Template

/-- Where a scan is: in text, in an output or in a block; an expression never ends. -/
inductive Region where
  | text
  | output
  | block
  | expression
  deriving DecidableEq

namespace Tokens

def lineEnds (cs : List Char) : Nat := cs.count '\n'

/-- White space between the tokens of a block. -/
def isGap (c : Char) : Bool := c = ' ' || c = '\t' || c = '\n' || c = '\r' || c = '\x0c'

/-- A mark that takes away or keeps white space. -/
def isControl (c : Char) : Bool := c = '-' || c = '+'

/-- What stands before the first opening mark, and the rest from that mark on. -/
def spanText : List Char → List Char × List Char
  | [] => ([], [])
  | '\x7b' :: c :: rest =>
      if c = '\x7b' || c = '%' || c = '#' then ([], '\x7b' :: c :: rest)
      else
        let (text, after) := spanText (c :: rest)
        ('\x7b' :: text, after)
  | c :: rest =>
      let (text, after) := spanText rest
      (c :: text, after)

/-- Whether a minus stands behind the opening mark at the front. -/
def opensTrimmed : List Char → Bool
  | _ :: _ :: '-' :: _ => true
  | _ => false

/-- What stands behind an opening mark and its control. -/
def afterOpening (cs : List Char) : List Char :=
  match cs.drop 2 with
  | c :: rest => if isControl c then rest else c :: rest
  | [] => []

/-- The characters before a comment ends, and those behind its end. -/
def spanComment : List Char → Option (List Char × List Char)
  | [] => none
  | '#' :: '\x7d' :: rest => some ([], rest)
  | c :: rest => (spanComment rest).map fun (body, after) => (c :: body, after)

/-- Passes over a block that holds one word and nothing else; the answer is whether a minus stands
before its closing mark, and what follows that mark. -/
def oneWordBlock? (word : List Char) (cs : List Char) : Option (Bool × List Char) :=
  let cs := cs.dropWhile isGap
  if word.isPrefixOf cs then
    match (cs.drop word.length).dropWhile isGap with
    | '-' :: '%' :: '\x7d' :: rest => some (true, rest)
    | '+' :: '%' :: '\x7d' :: rest => some (false, rest)
    | '%' :: '\x7d' :: rest => some (false, rest)
    | _ => none
  else none

/-- The end of a `raw` block. -/
structure RawEnd where
  body : List Char
  /-- Whether white space is taken away before and behind the closing block. -/
  trimBefore : Bool
  trimAfter : Bool
  rest : List Char

/-- The contents of a `raw` block up to the block that closes it. -/
def rawBody? : List Char → Option RawEnd
  | [] => none
  | '\x7b' :: '%' :: rest =>
      let inner :=
        match rest with
        | c :: more => if isControl c then more else rest
        | [] => []
      match oneWordBlock? ['e', 'n', 'd', 'r', 'a', 'w'] inner with
      | some (trimAfter, after) => some ⟨[], rest.head? == some '-', trimAfter, after⟩
      | none => (rawBody? rest).map fun found => { found with body := '\x7b' :: '%' :: found.body }
  | c :: rest => (rawBody? rest).map fun found => { found with body := c :: found.body }

/-- The closing mark of a region at the front: whether it takes away white space behind it, and what
follows. -/
def closing? (region : Region) (cs : List Char) : Option (Bool × List Char) :=
  match region, cs with
  | .output, '\x7d' :: '\x7d' :: rest => some (false, rest)
  | .output, '-' :: '\x7d' :: '\x7d' :: rest => some (true, rest)
  | .output, '+' :: '\x7d' :: '\x7d' :: rest => some (false, rest)
  | .block, '%' :: '\x7d' :: rest => some (false, rest)
  | .block, '-' :: '%' :: '\x7d' :: rest => some (true, rest)
  | .block, '+' :: '%' :: '\x7d' :: rest => some (false, rest)
  | _, _ => none

def longSigns : List (List Char) :=
  [['/', '/'], ['*', '*'], ['=', '='], ['!', '='], ['>', '='], ['<', '=']]

def shortSigns : List Char :=
  ['+', '-', '*', '/', '%', '.', ',', ':', '~', '|', '=', '>', '<', '(', ')', '[', ']', '\x7b', '\x7d']

/-- The sign at the front. -/
def sign? (cs : List Char) : Option (Token × List Char) :=
  if longSigns.contains (cs.take 2) then some (.sign (String.ofList (cs.take 2)), cs.drop 2)
  else
    match cs with
    | c :: rest => if shortSigns.contains c then some (.sign (String.singleton c), rest) else none
    | [] => none

/-- How a sign changes the number of open brackets. -/
def bracketChange : Token → Int
  | .sign s =>
      if s = "(" || s = "[" || s = "\x7b" then 1
      else if s = ")" || s = "]" || s = "\x7d" then -1
      else 0
  | _ => 0

/-- The token at the front of a block. -/
def inner (cs : List Char) : Except Fault (Token × List Char) :=
  match cs with
  | [] => .error (.malformed "unexpected character")
  | c :: rest =>
      if c = '\'' || c = '"' then Token.quoted c rest
      else if c.isDigit then Token.number cs
      else
        match sign? cs with
        | some found => .ok found
        | none =>
            match Token.word? cs with
            | some found => .ok found
            | none => .error (.malformed "unexpected character")

/-- The token of some text, if any is left. -/
def text (cs : List Char) (line : Nat) (more : Tokens) : Tokens :=
  if cs.isEmpty then more else more.cons (.text (String.ofList cs)) line

/-- The line behind some characters, given those that were there and those that are left. -/
def lineAfter (line : Nat) (before after : List Char) : Nat :=
  line + (lineEnds before - lineEnds after)

/-- Scans from a place on; `opened` counts the open brackets of a block, and `trim` says that white
space is to be dropped. -/
def scan : (steps : Nat) → Region → (opened : Int) → (trim : Bool) → List Char → (line : Nat) → Tokens
  | 0, _, _, _, _, _ => ⟨[], none⟩
  | steps + 1, .text, _, trim, cs, line =>
      let shown := if trim then Text.trimStart cs else cs
      let start := lineAfter line cs shown
      let (lead, rest) := spanText shown
      let shownLead := if opensTrimmed rest then Text.trimEnd lead else lead
      let place := start + lineEnds lead
      text shownLead start <|
        match rest with
        | '\x7b' :: '#' :: _ =>
            match spanComment (afterOpening rest) with
            | none => stop (.malformed "unexpected end of comment") place
            | some (body, after) =>
                scan steps .text 0 (body.getLast? == some '-') after (lineAfter place rest after)
        | '\x7b' :: '\x7b' :: _ =>
            (scan steps .output 0 false (afterOpening rest) place).cons .outputStart place
        | '\x7b' :: '%' :: _ =>
            match oneWordBlock? ['r', 'a', 'w'] (afterOpening rest) with
            | some (trimBody, after) =>
                let bodyLine := lineAfter place rest after
                match rawBody? after with
                | none => stop (.malformed "unexpected end of raw block") bodyLine
                | some found =>
                    let front := if trimBody then Text.trimStart found.body else found.body
                    let body := if found.trimBefore then Text.trimEnd front else front
                    (scan steps .text 0 found.trimAfter found.rest
                      (lineAfter bodyLine after found.rest)).cons (.text (String.ofList body)) bodyLine
            | none => (scan steps .block 0 false (afterOpening rest) place).cons .blockStart place
        | _ => ⟨[], none⟩
  | steps + 1, region, opened, _, cs, line =>
      let shown := cs.dropWhile isGap
      let place := lineAfter line cs shown
      if shown.isEmpty then ⟨[], none⟩
      else
        match if opened = 0 then closing? region shown else none with
        | some (trim, rest) =>
            (scan steps .text 0 trim rest place).cons
              (if region = .output then .outputEnd else .blockEnd) place
        | none =>
            match inner shown with
            | .error fault => stop fault place
            | .ok (token, rest) =>
                (scan steps region (opened + bracketChange token) false rest
                  (lineAfter place shown rest)).cons token place

/-- A source without the line end at its end. -/
def dropLineEnd (cs : List Char) : List Char :=
  let cs := if cs.getLast? = some '\n' then cs.dropLast else cs
  if cs.getLast? = some '\r' then cs.dropLast else cs

def ofTemplate (source : String) : Tokens :=
  let cs := dropLineEnd source.toList
  scan (cs.length + 1) .text 0 false cs 1

def ofExpression (source : String) : Tokens :=
  let cs := dropLineEnd source.toList
  scan (cs.length + 1) .expression 0 false cs 1

end Tokens
end Template
end EventRules
