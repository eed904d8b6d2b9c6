import EventRules.Decode.Source
import EventRules.Yaml.Node
import EventRules.Yaml.Scalar

/-!
# Reader — typed data read from a document

A fault names the path of the node it was found at and the place where that node begins, except at the
root and at the beginning of the text.  An empty plain scalar may stand for an empty list or record.
Nesting is limited, and so is the number of aliases that are followed.

* `Yaml.decode` — typed data from a text;
* `Yaml.Fault` — why there is none.
-/

namespace EventRules
namespace Yaml

inductive Fault where
  | broken (reason : Break)
  /-- A cause with the path and the place of the node, once they are known. -/
  | cause (cause : Cause) (place : Option (Option String × Mark))
  | tooDeep (mark : Mark)
  | tooManyAliases
  | endOfText
  | severalDocuments
  deriving DecidableEq

def wording : Wording := ⟨"unit value", .plain⟩

namespace Fault

def placeText (mark : Mark) : String := if mark.isStart then "" else " at " ++ mark.text

def pathText (path : Option String) : String :=
  if path.getD "." = "." then "" else path.getD "." ++ ": "

def message : Fault → String
  | .broken (.malformed fault) => fault.message
  | .broken (.unknownAnchor mark) => "unknown anchor" ++ placeText mark
  | .cause reason none => reason.message wording
  | .cause reason (some (path, mark)) => pathText path ++ reason.message wording ++ placeText mark
  | .tooDeep mark => "recursion limit exceeded" ++ placeText mark
  | .tooManyAliases => "repetition limit exceeded"
  | .endOfText => "EOF while parsing a value"
  | .severalDocuments =>
      "deserializing from YAML containing more than one document is not supported"

end Fault

/-- Where a reader is: the node, its path and how many levels may still be opened. -/
structure Setting where
  document : Document
  node : Node
  path : Option String
  depth : Nat

/-- Readers of a node; they count the aliases that they follow. -/
abbrev NodeReader := ReaderT Setting (StateT Nat (Except Fault))

namespace NodeReader

variable {α σ : Type}

/-! ## Places -/

def fail (cause : Cause) : NodeReader α := throw (.cause cause none)

/-- Says where a cause was found, unless that is known. -/
def located (mark : Mark) (reader : NodeReader α) : NodeReader α := fun setting jumps =>
  match reader setting jumps with
  | .ok result => .ok result
  | .error (.cause cause none) => .error (.cause cause (some (setting.path, mark)))
  | .error fault => .error fault

def at_ (node : Node) (reader : NodeReader α) : NodeReader α :=
  withReader (fun setting => { setting with node := node }) reader

/-- The path of an item. -/
def itemPath (path : Option String) (index : Nat) : String :=
  path.getD "." ++ "[" ++ toString index ++ "]"

/-- The path of a value; a key that is no scalar has no name. -/
def valuePath (path : Option String) (key : Node) : String :=
  (match path with
    | some parent => parent ++ "."
    | none => "") ++
    match key with
    | .scalar text _ _ _ => text
    | _ => "?"

/-! ## Nodes -/

/-- The fault of a part that is missing. -/
def missing : NodeReader α := do
  match (← read).document.break? with
  | some reason => throw (.broken reason)
  | none => throw .endOfText

/-- How many aliases may be followed for each event of a document. -/
def aliasesPerEvent : Nat := 100

/-- The node itself, or the one that an alias stands for. -/
def resolved : NodeReader Node := do
  let setting ← read
  match setting.node with
  | .alias anchor _ =>
      modify (· + 1)
      if setting.document.size * aliasesPerEvent < (← get) then throw .tooManyAliases
      else
        match setting.document.anchors.lookup anchor with
        | some node => return node
        | none => missing
  | node => return node

def markOf : Node → Mark
  | .scalar _ _ _ mark => mark
  | .sequence _ _ mark => mark
  | .map _ _ mark => mark
  | .alias _ mark => mark
  | .absent mark => mark
  | .broken => Mark.start

/-- Reports what a node is instead of what was expected. -/
def mismatch (node : Node) (expected : String) : NodeReader α :=
  match node with
  | .scalar text style tag _ =>
      match Scalar.found text style tag with
      | .ok found => fail (.invalidType found expected)
      | .error cause => fail cause
  | .sequence _ _ _ => fail (.invalidType .sequence expected)
  | .map _ _ _ => fail (.invalidType .map expected)
  | .absent _ => throw .endOfText
  | .alias _ _ | .broken => missing

/-- Whether nothing, or an empty plain scalar, stands for an empty collection. -/
def isEmptyCollection : Node → Bool
  | .scalar text style _ _ => text == "" && style == .plain
  | .absent _ => true
  | _ => false

mutual

/-- Whether the events of a node break off. -/
def isBroken : Node → Bool
  | .broken => true
  | .sequence items _ _ => anyBroken items
  | .map entries _ _ => anyEntryBroken entries
  | _ => false

def anyBroken : List Node → Bool
  | [] => false
  | item :: rest => isBroken item || anyBroken rest

def anyEntryBroken : List (Node × Node) → Bool
  | [] => false
  | (key, value) :: rest => isBroken key || isBroken value || anyEntryBroken rest

end

/-- Skips a node without following aliases. -/
def skip (node : Node) : NodeReader Unit := if isBroken node then missing else return ()

/-- Reads the parts of a collection one level deeper. -/
def deeper (mark : Mark) (reader : NodeReader α) : NodeReader α := do
  match (← read).depth with
  | 0 => throw (.tooDeep mark)
  | depth + 1 => withReader (fun setting => { setting with depth := depth }) reader

/-! ## Scalars -/

def textOf (expected : String) : NodeReader String := do
  let node ← resolved
  located (markOf node) <|
    match node with
    | .scalar text _ _ _ => return text
    | other => mismatch other expected

/-- The key of an entry, which has the path of its map. -/
def key (node : Node) (expected : String) : NodeReader String := at_ node (textOf expected)

/-- Reads the value of an entry. -/
def valueAt (key value : Node) (reader : NodeReader α) : NodeReader α :=
  withReader (fun setting =>
    { setting with node := value, path := some (valuePath setting.path key) }) reader

/-- Reads the items of a sequence. -/
def eachItem (reader : NodeReader α) (index : Nat) : List Node → NodeReader (List α)
  | [] => return []
  | item :: rest => do
      let value ← withReader (fun setting =>
        { setting with node := item, path := some (itemPath setting.path index) }) reader
      return value :: (← eachItem reader (index + 1) rest)

/-! ## Values -/

def jsonOf : Found → Except Cause Json
  | .unit => .ok .null
  | .bool b => .ok (.bool b)
  | .integer n | .wideInteger n =>
      match Number.ofInt? n with
      | some held => .ok (.number held)
      | none => .error .numberOutOfRange
  | .float x => .ok (.ofBinary64 x)
  | .string s => .ok (.string s)
  | other => .error (.invalidType other "any valid JSON value")

/-- Reads the entries of a value; the first key is asked for in other words than the others. -/
def jsonEntries (value : NodeReader Json) (expected : String) :
    List (Node × Node) → NodeReader (List (String × Json))
  | [] => return []
  | (name, content) :: rest => do
      let text ← key name expected
      let found ← valueAt name content value
      return (text, found) :: (← jsonEntries value "a string" rest)

def jsonFound (found : Except Cause Found) : NodeReader Json :=
  match found >>= jsonOf with
  | .ok value => return value
  | .error cause => fail cause

/-- A value without a schema, given how to read the parts of a collection unless it is too deep. -/
def jsonWith (inner : Option (NodeReader Json)) : NodeReader Json := do
  let node ← resolved
  let mark := markOf node
  let collection (tag : Option String) (read : NodeReader Json → NodeReader Json) :
      NodeReader Json :=
    if (Scalar.variant? tag).isSome then jsonFound (.ok .enumeration)
    else
      match inner with
      | some reader => read reader
      | none => throw (.tooDeep mark)
  located mark <|
    match node with
    | .scalar text style tag _ =>
        if (Scalar.variant? tag).isSome then jsonFound (.ok .enumeration)
        else jsonFound (Scalar.found text style tag)
    | .absent _ => return .null
    | .sequence items tag _ =>
        collection tag fun reader => do return .array (← eachItem reader 0 items)
    | .map entries tag _ =>
        collection tag fun reader => do
          return .ofEntries (← jsonEntries reader "a string key" entries)
    | .alias _ _ | .broken => missing

/-- A value that opens at most so many levels. -/
def jsonWithin : (depth : Nat) → NodeReader Json
  | 0 => jsonWith none
  | depth + 1 => jsonWith (some (jsonWithin depth))

def json : NodeReader Json := do jsonWithin (← read).depth

/-! ## Typed data -/

/-- Nothing and plain scalars for it are none. -/
def optional (reader : NodeReader α) : NodeReader (Option α) := do
  let node ← resolved
  at_ node <|
    match node with
    | .absent _ => return none
    | .scalar text .plain tag _ =>
        if tag = some (Scalar.language ++ "null") then
          if Scalar.isNull text then return none
          else fail (.invalidValue (.string text) "null")
        else if tag.isNone && (text == "" || Scalar.isNull text) then return none
        else some <$> reader
    | .broken => missing
    | _ => some <$> reader

def list (reader : NodeReader α) : NodeReader (List α) := do
  let node ← resolved
  located (markOf node) <|
    match node with
    | .sequence items _ mark => deeper mark (eachItem reader 0 items)
    | other => if isEmptyCollection other then return [] else mismatch other "a sequence"

/-- Reads the entries of a map into the accumulator of a record. -/
def members (record : Record NodeReader σ α) : List (Node × Node) → σ → NodeReader σ
  | [], acc => return acc
  | (name, value) :: rest, acc => do
      let text ← key name "field identifier"
      match record.field? text with
      | some field =>
          if field.isSet acc then fail (.duplicateField field.name)
          else members record rest (← valueAt name value (field.read acc))
      | none =>
          match record.others with
          | .ignored => do
              valueAt name value (skip value)
              members record rest acc
          | .kept read => do members record rest (← valueAt name value (read text acc))

def finished (record : Record NodeReader σ α) (acc : σ) : NodeReader α :=
  match record.finish acc with
  | .ok result => return result
  | .error cause => fail cause

def record (r : Record NodeReader σ α) : NodeReader α := do
  let node ← resolved
  located (markOf node) <|
    match node with
    | .map entries _ mark => deeper mark do finished r (← members r entries r.start)
    | other =>
        if isEmptyCollection other then finished r r.start else mismatch other r.description

/-- A name is a scalar, or a tag of its own on a scalar that stands for nothing. -/
def name (known : List String) (meaning : String → Option α) : NodeReader α := do
  let resolve (s : String) : NodeReader α :=
    match meaning s with
    | some a => return a
    | none => fail (.unknownVariant s known)
  let tagged (variant : String) (node : Node) : NodeReader α := do
    let a ← resolve variant
    located (markOf node) <|
      match node with
      | .scalar text style _ _ =>
          if style == .plain && (text == "" || Scalar.isNull text) then return a
          else fail (.invalidValue (.string text) "null")
      | other => mismatch other "unit"
  let untagged (node : Node) : NodeReader α :=
    located (markOf node) <|
      match node with
      | .scalar text _ _ _ => resolve text
      | other => mismatch other "a YAML tag starting with '!'"
  let direct (node : Node) : NodeReader α :=
    let variant :=
      match node with
      | .scalar _ _ tag _ | .sequence _ tag _ | .map _ tag _ => Scalar.variant? tag
      | _ => none
    match variant with
    | some s => tagged s node
    | none => untagged node
  match (← read).node with
  | .alias _ mark => do
      let node ← resolved
      located mark (direct node)
  | node => direct node

instance : Source NodeReader where
  fail := fail
  text := textOf "a string"
  json := json
  optional := optional
  record := record

instance : RuleSource NodeReader where
  list := list
  name := name

end NodeReader

/-- The greatest number of nested collections. -/
def depthLimit : Nat := 128

/-- Typed data from a text with one document. -/
def decode {α : Type} (reader : NodeReader α) (text : String) : Except Fault α := do
  let document := Document.ofText text
  let (result, _) ← (reader ⟨document, document.root, none, depthLimit⟩).run 0
  match document.break? with
  | some reason => throw (.broken reason)
  | none => if document.more then throw .severalDocuments else return result

end Yaml
end EventRules
