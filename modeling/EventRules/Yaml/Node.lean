import EventRules.Yaml.Event.Grammar

/-!
# Node — the nodes of a document

A node whose events break off has a broken node as its last part.  An alias refers to an anchor by a
number: how many names of anchors precede it where it is defined.  The node that an alias stands for is
looked up when the alias is read, so that a node may contain an alias of itself.

* `Document.ofText` — the root node with the anchors of a text.
-/

namespace EventRules
namespace Yaml

inductive Node where
  | scalar (text : String) (style : Style) (tag : Option String) (mark : Mark)
  | sequence (items : List Node) (tag : Option String) (mark : Mark)
  | map (entries : List (Node × Node)) (tag : Option String) (mark : Mark)
  | alias (anchor : Nat) (mark : Mark)
  /-- The root of a text without a document. -/
  | absent (mark : Mark)
  /-- Where the events break off. -/
  | broken

/-- Why the nodes of a document cannot all be read. -/
inductive Break where
  | malformed (fault : Malformed)
  | unknownAnchor (mark : Mark)
  deriving DecidableEq

structure Document where
  root : Node
  anchors : List (Nat × Node)
  break? : Option Break
  /-- How many events there are. -/
  size : Nat
  more : Bool

/-! ## Nodes from events -/

/-- A collection that has begun: its parts so far, last one first, and the number of its anchor.  In a
map, keys and values alternate. -/
structure Open where
  isMap : Bool
  parts : List Node
  tag : Option String
  mark : Mark
  anchor : Option Nat

/-- Keys with their values; a key without a value gets a broken one. -/
def pairs : List Node → List (Node × Node)
  | [] => []
  | [key] => [(key, .broken)]
  | key :: value :: rest => (key, value) :: pairs rest

def Open.node (frame : Open) : Node :=
  if frame.isMap then .map (pairs frame.parts.reverse) frame.tag frame.mark
  else .sequence frame.parts.reverse frame.tag frame.mark

/-- The nodes while events are gone through. -/
structure Building where
  frames : List Open
  root : Option Node
  /-- The numbers of the names of anchors. -/
  names : List (String × Nat)
  /-- The number of each anchor with the place of its event and, when it is finished, its node. -/
  anchors : List (Nat × Nat × Node)
  size : Nat

namespace Building

def start : Building := ⟨[], none, [], [], 0⟩

/-- Adds a node to the innermost collection. -/
def add (node : Node) (b : Building) : Building :=
  match b.frames with
  | [] => { b with root := some (b.root.getD node) }
  | frame :: rest => { b with frames := { frame with parts := node :: frame.parts } :: rest }

/-- Numbers an anchor by the names before it. -/
def define (name : Option String) (b : Building) : Option Nat × Building :=
  match name with
  | none => (none, b)
  | some name =>
      let number := b.names.length
      let names := (name, number) :: b.names.filter fun (other, _) => other != name
      (some number, { b with names := names })

/-- Keeps a finished node under the number of its anchor, unless a later one has that number. -/
def keep (anchor : Option Nat) (place : Nat) (node : Node) (b : Building) : Building :=
  match anchor with
  | none => b
  | some number =>
      if b.anchors.any fun (n, p, _) => n == number && place < p then b
      else { b with anchors := (number, place, node) :: b.anchors }

/-- Finishes the innermost collection. -/
def close (b : Building) : Building :=
  match b.frames with
  | [] => b
  | frame :: rest =>
      let node := frame.node
      add node (keep frame.anchor frame.mark.index node { b with frames := rest })

/-- Takes one event in; a fault is the place of an alias without an anchor. -/
def step (b : Building) (event : Event) (mark : Mark) : Except Mark Building :=
  let grown := { b with size := b.size + 1 }
  let opened (isMap : Bool) (properties : Properties) : Building :=
    let (anchor, next) := grown.define properties.anchor
    { next with frames := ⟨isMap, [], properties.tag, mark, anchor⟩ :: next.frames }
  match event with
  | .scalar properties text style =>
      let (anchor, next) := grown.define properties.anchor
      let node := Node.scalar text style properties.tag mark
      .ok ((next.keep anchor mark.index node).add node)
  | .alias name =>
      match b.names.lookup name with
      | some number => .ok (grown.add (.alias number mark))
      | none => .error mark
  | .sequenceStart properties => .ok (opened false properties)
  | .mapStart properties => .ok (opened true properties)
  | .sequenceEnd | .mapEnd => .ok grown.close

/-- Takes all events in, up to an alias without an anchor. -/
def all : List (Event × Mark) → Building → Building × Option Mark
  | [], b => (b, none)
  | (event, mark) :: rest, b =>
      match b.step event mark with
      | .ok next => all rest next
      | .error place => (b, some place)

/-- Finishes all collections, with a broken node at the end of each. -/
def abandon : (frames : Nat) → Building → Building
  | 0, b => b
  | n + 1, b => abandon n (b.add .broken).close

end Building

namespace Document

def ofEvents (events : Events) : Document :=
  let (b, unknown) := Building.all events.events Building.start
  let break? :=
    match unknown, events.fault with
    | some mark, _ => some (Break.unknownAnchor mark)
    | none, some fault => some (.malformed fault)
    | none, none => none
  let b := if break?.isSome then b.abandon b.frames.length else b
  let root :=
    match b.root with
    | some node => node
    | none => if break?.isSome then .broken else .absent Mark.start
  ⟨root, b.anchors.map fun (number, _, node) => (number, node), break?, b.size, events.more⟩

def ofText (text : String) : Document := ofEvents (.ofTokens (.ofText text))

end Document

end Yaml
end EventRules
