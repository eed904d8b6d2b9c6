import EventRules.Yaml.Event.Basic
import EventRules.Yaml.Token.Tokens

/-!
# Grammar — events from tokens

A document is a node.  A node has properties, which are an anchor and a tag in either order, and a
content: a scalar, a block or flow collection, or nothing if it has properties.  Nothing stands for an
empty scalar where a node may be missing.

* `Events.ofTokens` — the events of the first document.
-/

namespace EventRules
namespace Yaml

/-- Tokens that have not been taken, and the events found so far, last one first. -/
structure Grammar where
  rest : List Placed
  /-- Why there are no tokens behind the last one. -/
  fault : Option Malformed
  /-- The texts that handles of tags stand for. -/
  handles : List (String × String)
  found : List (Event × Mark)

namespace Grammar

/-- A fault leaves the events that were found before it. -/
abbrev Parser := ExceptT Malformed (StateM Grammar)

/-! ## Tokens and events -/

/-- The next token; the end of the text is a token, so that only a fault can hide it. -/
def peek : Parser Placed := do
  let g ← get
  match g.rest, g.fault with
  | placed :: _, _ => return placed
  | [], some fault => throw fault
  | [], none => throw (.of .endOfText Mark.start)

def skip : Parser Unit := modify fun g => { g with rest := g.rest.drop 1 }

def emit (event : Event) (place : Mark) : Parser Unit :=
  modify fun g => { g with found := (event, place) :: g.found }

/-- A missing node. -/
def emptyScalar (place : Mark) : Parser Unit := emit (.scalar ⟨none, none⟩ "" .plain) place

/-- Whether the next token is one of the given ones. -/
def isAt (tokens : List Token) : Parser Bool := do return tokens.contains (← peek).token

/-! ## Directives -/

def defaultHandles : List (String × String) := [("!", "!"), ("!!", "tag:yaml.org,2002:")]

/-- The directives of a document; `version` says whether there has been a version. -/
def directives : (steps : Nat) → (version : Bool) → List (String × String) → Parser Unit
  | 0, _, _ => return ()
  | steps + 1, version, handles => do
      let placed ← peek
      match placed.token with
      | .version major minor =>
          if version then throw (.of .repeatedVersion placed.start)
          else if major ≠ 1 || !(minor == 1 || minor == 2) then
            throw (.of .incompatibleVersion placed.start)
          else
            skip
            directives steps true handles
      | .tagDirective handle text =>
          if (handles.lookup handle).isSome then throw (.of .repeatedTagDirective placed.start)
          else
            skip
            directives steps version (handles ++ [(handle, text)])
      | _ => modify fun g => { g with handles := handles ++ defaultHandles }

/-! ## Properties -/

def anchor? : Parser (Option String) := do
  match (← peek).token with
  | .anchor name =>
      skip
      return some name
  | _ => return none

/-- A tag with its place. -/
def tag? : Parser (Option ((String × String) × Mark)) := do
  let placed ← peek
  match placed.token with
  | .tag handle suffix =>
      skip
      return some ((handle, suffix), placed.start)
  | _ => return none

/-- The whole text of a tag of a node that begins somewhere. -/
def resolve (start : Mark) (tag : Option ((String × String) × Mark)) : Parser (Option String) := do
  match tag with
  | none => return none
  | some ((handle, suffix), place) =>
      if handle = "" then return some suffix
      else
        match (← get).handles.lookup handle with
        | some text => return some (text ++ suffix)
        | none => throw (.within .undefinedTag place .node start)

/-- The properties of a node that begins somewhere. -/
def properties (start : Mark) : Parser Properties := do
  match ← anchor? with
  | some name => return ⟨some name, ← resolve start (← tag?)⟩
  | none =>
      let tag ← tag?
      let name ← anchor?
      return ⟨name, ← resolve start tag⟩

/-- A tag that only says that a scalar is not plain is dropped. -/
def scalarProperties (found : Properties) : Properties :=
  if found.tag = some "!" then { found with tag := none } else found

/-! ## Nodes -/

/-- How to parse a node: whether it may be a block, and whether a sequence in it need not be indented. -/
abbrev NodeParser := (block indentless : Bool) → Parser Unit

/-- A node, or an empty scalar if one of the given tokens is next. -/
def nodeUnless (node : NodeParser) (block indentless : Bool) (ends : List Token) (place : Mark) :
    Parser Unit := do
  if ← isAt ends then emptyScalar place else node block indentless

/-- Repeats a step until it answers that it is done. -/
def repeatWith (step : Bool → Parser Bool) : (steps : Nat) → (first : Bool) → Parser Unit
  | 0, _ => return ()
  | steps + 1, first => do
      if ← step first then repeatWith step steps false

/-- Repeats a step that takes tokens; it is told whether it is the first. -/
def loop (step : Bool → Parser Bool) : Parser Unit := do
  repeatWith step ((← get).rest.length + 2) true

def blockSequence (node : NodeParser) (start : Mark) : Parser Unit := do
  skip
  loop fun _ => do
    let placed ← peek
    if placed.token = .blockEntry then
      skip
      nodeUnless node true false [.blockEntry, .blockEnd] placed.stop
      return true
    else if placed.token = .blockEnd then
      emit .sequenceEnd placed.start
      skip
      return false
    else throw (.within .noBlockEntry placed.start .blockSequence start)

/-- A sequence that is not indented more than the map that it stands in. -/
def indentlessSequence (node : NodeParser) : Parser Unit :=
  loop fun _ => do
    let placed ← peek
    if placed.token = .blockEntry then
      skip
      nodeUnless node true false [.blockEntry, .key, .value, .blockEnd] placed.stop
      return true
    else
      emit .sequenceEnd placed.start
      return false

def blockMap (node : NodeParser) (start : Mark) : Parser Unit := do
  skip
  loop fun _ => do
    let placed ← peek
    if placed.token = .blockEnd then
      emit .mapEnd placed.start
      skip
      return false
    else
      if placed.token ≠ .key then throw (.within .noBlockKey placed.start .blockMap start)
      skip
      nodeUnless node true true [.key, .value, .blockEnd] placed.stop
      let placed ← peek
      if placed.token = .value then
        skip
        nodeUnless node true true [.key, .value, .blockEnd] placed.stop
      else emptyScalar placed.start
      return true

/-- A map of one entry inside of a flow sequence, from behind its key sign on. -/
def singleEntry (node : NodeParser) : Parser Unit := do
  let placed ← peek
  if [Token.value, .flowEntry, .flowSequenceEnd].contains placed.token then
    skip
    emptyScalar placed.stop
  else node false false
  let placed ← peek
  if placed.token = .value then
    skip
    nodeUnless node false false [.flowEntry, .flowSequenceEnd] (← peek).start
  else emptyScalar placed.start
  emit .mapEnd (← peek).start

def flowSequence (node : NodeParser) (start : Mark) : Parser Unit := do
  skip
  loop fun first => do
    if !first && !(← isAt [.flowSequenceEnd]) then
      let placed ← peek
      if placed.token = .flowEntry then skip
      else throw (.within .noFlowEntry placed.start .flowSequence start)
    let placed ← peek
    if placed.token = .flowSequenceEnd then
      emit .sequenceEnd placed.start
      skip
      return false
    else if placed.token = .key then
      emit (.mapStart ⟨none, none⟩) placed.start
      skip
      singleEntry node
      return true
    else
      node false false
      return true

def flowMap (node : NodeParser) (start : Mark) : Parser Unit := do
  skip
  loop fun first => do
    if !first && !(← isAt [.flowMapEnd]) then
      let placed ← peek
      if placed.token = .flowEntry then skip
      else throw (.within .noFlowKey placed.start .flowMap start)
    let placed ← peek
    if placed.token = .flowMapEnd then
      emit .mapEnd placed.start
      skip
      return false
    else if placed.token = .key then
      skip
      nodeUnless node false false [.value, .flowEntry, .flowMapEnd] (← peek).start
      let placed ← peek
      if placed.token = .value then
        skip
        nodeUnless node false false [.flowEntry, .flowMapEnd] (← peek).start
      else emptyScalar placed.start
      return true
    else
      node false false
      emptyScalar (← peek).start
      return true

/-- A node, given how to parse the nodes in it. -/
def nodeWith (node : NodeParser) : NodeParser := fun block indentless => do
  let first ← peek
  let start := first.start
  match first.token with
  | .alias name =>
      emit (.alias name) start
      skip
  | _ =>
      let found ← properties start
      let placed ← peek
      match placed.token, block with
      | .blockEntry, _ =>
          if indentless then
            emit (.sequenceStart found) start
            indentlessSequence node
          else missing found start block placed.start
      | .scalar text style, _ =>
          emit (.scalar (scalarProperties found) text style) start
          skip
      | .flowSequenceStart, _ =>
          emit (.sequenceStart found) start
          flowSequence node placed.start
      | .flowMapStart, _ =>
          emit (.mapStart found) start
          flowMap node placed.start
      | .blockSequenceStart, true =>
          emit (.sequenceStart found) start
          blockSequence node placed.start
      | .blockMapStart, true =>
          emit (.mapStart found) start
          blockMap node placed.start
      | _, _ => missing found start block placed.start
where
  /-- A node without a content, which only properties can make up for. -/
  missing (found : Properties) (start : Mark) (block : Bool) (place : Mark) : Parser Unit := do
    if found.anchor.isSome || found.tag.isSome then emit (.scalar found "" .plain) start
    else throw (.within .noContent place (if block then .blockNode else .flowNode) start)

def node : (levels : Nat) → NodeParser
  | 0 => fun _ _ => return ()
  | levels + 1 => nodeWith (node levels)

/-! ## Documents -/

def anyNode : NodeParser := fun block indentless => do
  node ((← get).rest.length + 1) block indentless

def startsDocument : Token → Bool
  | .version _ _ | .tagDirective _ _ | .documentStart | .documentEnd | .streamEnd => true
  | _ => false

/-- What follows the directives of a document. -/
def marked : Parser Unit := do
  let placed ← peek
  if placed.token ≠ .documentStart then throw (.of .noDocumentStart placed.start)
  else
    skip
    let placed ← peek
    if startsDocument placed.token then emptyScalar placed.start else anyNode true false

/-- The first document, if there is one. -/
def document : Parser Bool := do
  let _ ← peek
  skip
  let placed ← peek
  match placed.token with
  | .streamEnd => return false
  | .version _ _ | .tagDirective _ _ | .documentStart => do
      directives ((← get).rest.length + 1) false []
      marked
      return true
  | _ => do
      directives 1 false []
      anyNode true false
      return true

/-- Whether anything follows the end of a document. -/
def following : Parser Bool := do
  loop fun _ => do
    if ← isAt [.documentEnd] then
      skip
      return true
    else return false
  return (← peek).token ≠ .streamEnd

end Grammar

namespace Events

open Grammar

/-- The events of the first document.  A fault behind its end only shows that something follows. -/
def ofTokens (tokens : Tokens) : Events :=
  let start : Grammar := ⟨tokens.tokens, tokens.fault, [], []⟩
  let (result, after) := (do
    let any ← document
    let _ ← peek
    return any : Parser Bool).run.run start
  match result with
  | .error fault => ⟨after.found.reverse, some fault, true, false⟩
  | .ok any =>
      let more :=
        match (following.run.run after).1 with
        | .ok more => any && more
        | .error _ => true
      ⟨after.found.reverse, none, any, more⟩

end Events

end Yaml
end EventRules
