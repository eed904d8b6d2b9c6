import EventRules.Yaml.Token.Basic

/-!
# Scalar — texts of all styles

* `Scan.plainScalar`, `Scan.quotedScalar`, `Scan.blockScalar` — a text from its first character on.

Line ends inside of plain and quoted scalars are folded: a single one is a space, and of several all
but the first are kept.
-/

namespace EventRules
namespace Yaml
namespace Scan

/-! ## Line folding -/

/-- What stands between two pieces of a scalar: blanks of one line, or a first line end and those that
follow it. -/
structure Gap where
  blanks : List Char
  folded : Bool
  first : List Char
  further : List Char

def Gap.none : Gap := ⟨[], false, [], []⟩

/-- What a gap adds to a scalar. -/
def Gap.text (gap : Gap) : List Char :=
  if gap.folded then
    if gap.first = ['\n'] then (if gap.further.isEmpty then [' '] else gap.further)
    else gap.first ++ gap.further
  else gap.blanks

/-- Extends a gap by one blank or line end; blanks at the beginning of a line are dropped. -/
def extendGap (gap : Gap) (c : Char) : Scan Gap := do
  if isGap c then
    skip 1
    return if gap.folded then gap else { gap with blanks := gap.blanks ++ [c] }
  else
    let lineEnd ← takeBreak
    if gap.folded then return { gap with further := gap.further ++ lineEnd }
    else return { gap with blanks := [], folded := true, first := lineEnd }

/-- All blanks and line ends; `check` looks at each blank first. -/
def takeGap (gap : Gap) (check : Gap → Char → Scan Unit) : Scan Gap :=
  loop gap fun gap => do
    match ← next? with
    | some c =>
        if isGap c || isBreak c then
          check gap c
          return (← extendGap gap c, true)
        else return (gap, false)
    | none => return (gap, false)

/-! ## Plain scalars -/

/-- Signs that end a plain scalar inside of brackets. -/
def isBracketSign (c : Char) : Bool := c == ',' || c == '[' || c == ']' || c == '\x7b' || c == '\x7d'

/-- The text up to the next blank, line end or sign that ends the scalar. -/
def plainPiece (start : Mark) : Scan (List Char) := do
  let inBrackets := (← get).flowLevel ≠ 0
  loop [] fun piece => do
    match ← next? with
    | none => return (piece, false)
    | some c =>
        if endsWord (some c) then return (piece, false)
        else
          let following ← ahead? 1
          if inBrackets && c == ':' &&
              ((following.map fun d => isBracketSign d || d == '?') == some true) then
            failIn .colonInPlainScalar .plainScalar start
          else if (c == ':' && endsWord following) || (inBrackets && isBracketSign c) then
            return (piece, false)
          else
            skip 1
            return (piece ++ [c], true)

structure PlainState where
  text : List Char
  gap : Gap
  stop : Mark

def plainScalar : Scan Unit := do
  let start ← mark
  let indent := ((← get).indent.map (· + 1)).getD 0
  let found ← loop (PlainState.mk [] Gap.none start) fun state => do
    if (← atDocumentMark '-') || (← atDocumentMark '.') || (← isAt '#') then
      return (state, false)
    else
      let piece ← plainPiece start
      let state ←
        if piece.isEmpty then pure state
        else do
          pure ⟨state.text ++ state.gap.text ++ piece, Gap.none, ← mark⟩
      match ← next? with
      | some c =>
          if isGap c || isBreak c then
            let gap ← takeGap state.gap fun gap c => do
              if gap.folded && c == '\t' && (← mark).column < indent then
                failIn .tabInPlainScalar .plainScalar start
            let state := { state with gap := gap }
            let s ← get
            return (state, !(s.flowLevel == 0 && s.mark.column < indent))
          else return (state, false)
      | none => return (state, false)
  modify fun s =>
    { s with
      tokens := s.tokens ++ [⟨.scalar (String.ofList found.text) .plain, start, found.stop⟩]
      keyAllowed := s.keyAllowed || found.gap.folded }

/-! ## Quoted scalars -/

def hexValue? (c : Char) : Option Nat :=
  if c.isDigit then some (c.toNat - 48)
  else if 'a' ≤ c ∧ c ≤ 'f' then some (c.toNat - 87)
  else if 'A' ≤ c ∧ c ≤ 'F' then some (c.toNat - 55)
  else none

/-- The characters that stand for others behind a backslash. -/
def escapes : List (Char × Nat) := [
  ('0', 0), ('a', 7), ('b', 8), ('t', 9), ('\t', 9), ('n', 10), ('v', 11), ('f', 12), ('r', 13),
  ('e', 27), (' ', 32), ('"', 34), ('/', 47), ('\\', 92), ('N', 0x85), ('_', 0xa0), ('L', 0x2028),
  ('P', 0x2029)]

/-- How many digits follow a letter that begins a code point. -/
def codeLengths : List (Char × Nat) := [('x', 2), ('u', 4), ('U', 8)]

/-- The character of an escape sequence, which the cursor is at. -/
def escape (start : Mark) : Scan Char := do
  match ← ahead? 1 with
  | none => failIn .unknownEscape .quotedEscape start
  | some c =>
      match escapes.lookup c, codeLengths.lookup c with
      | some code, _ =>
          skip 2
          return Char.ofNat code
      | none, some count =>
          skip 2
          let digits := (← get).rest.take count
          match digits.mapM hexValue? with
          | some values =>
              if values.length < count then failIn .noHexDigits .quotedEscape start
              else
                let code := values.foldl (fun n d => n * 16 + d) 0
                if (0xd800 ≤ code && code ≤ 0xdfff) || 0x10ffff < code then
                  failIn .badCodePoint .quotedEscape start
                else
                  skip count
                  return Char.ofNat code
          | none => failIn .noHexDigits .quotedEscape start
      | none, none => failIn .unknownEscape .quotedEscape start

/-- The text up to the next blank, line end or closing quote.  A line end behind a backslash joins the
lines without a space. -/
def quotedPiece (single : Bool) (start : Mark) : Scan (List Char × Gap) :=
  loop ([], Gap.none) fun (piece, gap) => do
    let found ← next?
    let following ← ahead? 1
    match found with
    | none => return ((piece, gap), false)
    | some c =>
        if endsWord (some c) then return ((piece, gap), false)
        else if single && c == '\'' && following == some '\'' then
          skip 2
          return ((piece ++ [c], gap), true)
        else if c == (if single then '\'' else '"') then return ((piece, gap), false)
        else if !single && c == '\\' && (following.map isBreak) == some true then
          skip 1
          let _ ← takeBreak
          return ((piece, { gap with folded := true }), false)
        else if !single && c == '\\' then
          let e ← escape start
          return ((piece ++ [e], gap), true)
        else
          skip 1
          return ((piece ++ [c], gap), true)

def quotedScalar (single : Bool) : Scan Unit := do
  let start ← mark
  skip 1
  let text ← loop [] fun text => do
    if (← atDocumentMark '-') || (← atDocumentMark '.') then
      failIn .documentMark .quotedScalar start
    else if (← next?).isNone then failIn .endOfText .quotedScalar start
    else
      let (piece, gap) ← quotedPiece single start
      let text := text ++ piece
      if ← isAt (if single then '\'' else '"') then return (text, false)
      else
        let gap ← takeGap gap fun _ _ => return ()
        return (text ++ gap.text, true)
  skip 1
  push (.scalar (String.ofList text) (if single then .singleQuoted else .doubleQuoted)) start

/-! ## Block scalars -/

/-- What happens to the line ends at the end of a block scalar. -/
inductive Chomping where
  | strip
  | clip
  | keep
  deriving DecidableEq

def chomping? : Option Char → Option Chomping
  | some '+' => some .keep
  | some '-' => some .strip
  | _ => none

/-- An indentation indicator, if there is one. -/
def indicator (start : Mark) : Scan (Option Nat) := do
  match ← next? with
  | some c =>
      if !c.isDigit then return none
      else if c == '0' then failIn .zeroIndentation .blockScalar start
      else
        skip 1
        return some (c.toNat - 48)
  | none => return none

/-- The indicators of a block scalar, in either order. -/
def header (start : Mark) : Scan (Chomping × Option Nat) := do
  match chomping? (← next?) with
  | some chomping =>
      skip 1
      return (chomping, ← indicator start)
  | none =>
      let indent ← indicator start
      match indent, chomping? (← next?) with
      | some _, some chomping =>
          skip 1
          return (chomping, indent)
      | _, _ => return (.clip, indent)

/-- The empty lines that come next; with `none` for the indentation, their longest line counts. -/
def emptyLines (start : Mark) (indent : Option Nat) : Scan (List Char × Nat × Mark) := do
  let within (column : Nat) : Bool := (indent.map fun n => decide (column < n)).getD true
  let (breaks, widest, stop) ← loop (([] : List Char), 0, ← mark) fun (breaks, widest, stop) => do
    let column := (← mark).column
    let spaces := ((← get).rest.takeWhile (· == ' ')).length
    skip ((indent.map fun n => min spaces (n - column)).getD spaces)
    let column := (← mark).column
    let widest := max widest column
    if within column && (← isAt '\t') then failIn .tabInIndentation .blockScalar start
    else if ((← next?).map isBreak) == some true then
      let lineEnd ← takeBreak
      return ((breaks ++ lineEnd, widest, ← mark), true)
    else return ((breaks, widest, stop), false)
  let least := ((← get).indent.map (· + 1)).getD 0
  return (breaks, indent.getD (max 1 (max least widest)), stop)

/-- The rest of a line, which may hold a comment. -/
def restOfLine (problem : Problem) (context : Context) (start : Mark) : Scan Unit := do
  let _ ← takeWhile isGap
  if ← isAt '#' then
    let _ ← takeWhile fun c => !isBreak c
  if !endsLine (← next?) then failIn problem context start
  else
    let _ ← takeBreak

structure BlockState where
  text : List Char
  /-- The line end of the last line, and those of the empty lines behind it. -/
  lineEnd : List Char
  further : List Char
  /-- Whether the last line began with a blank. -/
  blank : Bool
  stop : Mark

def blockScalar (literal : Bool) : Scan Unit := do
  let start ← mark
  skip 1
  let (chomping, increment) ← header start
  restOfLine .headerNotEnded .blockScalar start
  let block := (← get).indent.getD 0
  let given := increment.map (block + ·)
  let (breaks, indent, stop) ← emptyLines start given
  let found ← loop (BlockState.mk [] [] breaks false stop) fun state => do
    let s ← get
    if s.mark.column ≠ indent || s.rest.isEmpty then return (state, false)
    else
      let blank := (s.rest.head?.map isGap) == some true
      let joined :=
        if !literal && state.lineEnd.head? == some '\n' && !state.blank && !blank then
          if state.further.isEmpty then [' '] else []
        else state.lineEnd
      let line ← takeWhile fun c => !isBreak c
      let lineEnd ← takeBreak
      let (further, _, stop) ← emptyLines start (some indent)
      return (⟨state.text ++ joined ++ state.further ++ line, lineEnd, further, blank, stop⟩, true)
  let text :=
    match chomping with
    | .strip => found.text
    | .clip => found.text ++ found.lineEnd
    | .keep => found.text ++ found.lineEnd ++ found.further
  modify fun s =>
    { s with
      tokens := s.tokens ++
        [⟨.scalar (String.ofList text) (if literal then .literal else .folded), start, found.stop⟩] }

end Scan
end Yaml
end EventRules
