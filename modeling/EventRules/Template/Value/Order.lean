import EventRules.Template.Value.Basic

/-!
# Order — equality and order of values

Numbers and booleans are compared by their number, texts by code points, sequences item by item,
maps entry by entry, and values of different kinds by the order of their kinds.  A whole number and a
float are compared only if the whole number has an exact double.

* `Value.equals` — equality;
* `Value.order` — the order in which maps keep their keys and in which items are sorted.
-/

namespace EventRules
namespace Template
namespace Value

/-- Two numbers brought to one form. -/
inductive NumberPair where
  | whole (m n : Int)
  | real (x y : Binary64)

/-- The least and the greatest whole number of the width that a number is held in. -/
def heldWithin (n : Int) : Int × Int :=
  if Width.fits 64 n then (0, Width.greatest 64)
  else if Width.fitsSigned 64 n then (Width.leastSigned 64, Width.greatestSigned 64)
  else (Width.leastSigned 128, Width.greatest 128)

/-- Whether the double of a whole number leads back to it. -/
def isExact (n : Int) : Bool :=
  match Binary64.ofInt n with
  | .finite x =>
      let (least, greatest) := heldWithin n
      max least (min greatest x.truncate) == n
  | _ => false

/-- The double of a number; unless rounding is allowed, only if it is exact. -/
def real? (rounded : Bool) : Value → Option Binary64
  | .bool b => some (Binary64.ofNat (if b then 1 else 0))
  | .integer n => if rounded || isExact n then some (Binary64.ofInt n) else Option.none
  | .float x => some x
  | _ => Option.none

/-- Two values as numbers: as doubles if one of them is a float, as whole numbers otherwise. -/
def numbers? (rounded : Bool) (a b : Value) : Option NumberPair :=
  match a, b with
  | .float x, _ => (b.real? rounded).map fun y => .real x y
  | _, .float y => (a.real? rounded).map fun x => .real x y
  | _, _ =>
      match a.integer?, b.integer? with
      | some m, some n => some (.whole m n)
      | _, _ => Option.none

/-- Order of doubles in which every two are comparable: the infinite and not-a-number ones are
farthest out, and a negative zero precedes a positive one. -/
def totalOrder (x y : Binary64) : Ordering :=
  match x.compare? y with
  | some .eq =>
      if x.isZero && y.isZero then compare (!x.isNegative) (!y.isNegative) else .eq
  | some o => o
  | Option.none => compare x.isNaN y.isNaN

def orderNumbers : NumberPair → Ordering
  | .whole m n => compare m n
  | .real x y => totalOrder x y

def equalNumbers : NumberPair → Bool
  | .whole m n => m == n
  | .real x y => x.compare? y == some .eq

def then_ (first second : Ordering) : Ordering := if first = .eq then second else first

mutual

def order : Value → Value → Ordering
  | .string s _, b =>
      match b with
      | .string t _ => compare s t
      | other => compare Kind.string.rank other.kind.rank
  | .seq xs, b => if b.kind = .sequence ∨ b.kind = .iterable then
      orderWithKind .sequence b.kind (orderItems xs (b.items?.getD []))
      else compare Kind.sequence.rank b.kind.rank
  | .iterable _ xs, b => if b.kind = .sequence ∨ b.kind = .iterable then
      orderWithKind .iterable b.kind (orderItems xs (b.items?.getD []))
      else compare Kind.iterable.rank b.kind.rank
  | .map xs, b =>
      match b with
      | .map ys => orderEntries xs ys
      | other => compare Kind.map.rank other.kind.rank
  | .group key xs, b => if b.kind = .sequence ∨ b.kind = .iterable then
      orderWithKind .sequence b.kind <|
        match b.items?.getD [] with
        | [] => .gt
        | [y] => then_ (order key y) .gt
        | y :: z :: zs =>
            then_ (order key y) <| then_
              (if z.kind = .sequence ∨ z.kind = .iterable then
                orderWithKind .iterable z.kind (orderItems xs (z.items?.getD []))
              else compare Kind.iterable.rank z.kind.rank)
              (if zs.isEmpty then .eq else .lt)
      else compare Kind.sequence.rank b.kind.rank
  | .named xs, b => orderOther (.named xs) b
  | .loop xs i n, b => orderOther (.loop xs i n) b
  | .space i xs, b => orderOther (.space i xs) b
  | .undefined, b => orderOther .undefined b
  | .none, b => orderOther .none b
  | .bool x, b => orderOther (.bool x) b
  | .integer x, b => orderOther (.integer x) b
  | .float x, b => orderOther (.float x) b
  | .function x, b => orderOther (.function x) b
  | .routine r i, b => orderOther (.routine r i) b

/-- Different kinds come first. -/
def orderWithKind (a b : Kind) (o : Ordering) : Ordering :=
  then_ (compare a.rank b.rank) o

/-- Order of values one of which has no parts. -/
def orderOther (a b : Value) : Ordering :=
  match numbers? false a b with
  | some pair => orderNumbers pair
  | Option.none => compare a.kind.rank b.kind.rank

def orderItems : List Value → List Value → Ordering
  | [], [] => .eq
  | [], _ :: _ => .lt
  | _ :: _, [] => .gt
  | x :: xs, y :: ys => then_ (order x y) (orderItems xs ys)

def orderEntries : List (Value × Value) → List (Value × Value) → Ordering
  | [], [] => .eq
  | [], _ :: _ => .lt
  | _ :: _, [] => .gt
  | (k, x) :: xs, (l, y) :: ys => then_ (order k l) (then_ (order x y) (orderEntries xs ys))

end

/-- The value under a key. -/
def lookup (key : Value) (entries : List (Value × Value)) : Option Value :=
  (entries.find? fun entry => order entry.1 key == .eq).map (·.2)

/-- Puts a value under a key, keeping the order of the keys. -/
def insert (key value : Value) : List (Value × Value) → List (Value × Value)
  | [] => [(key, value)]
  | (k, v) :: rest =>
      match order key k with
      | .lt => (key, value) :: (k, v) :: rest
      | .eq => (k, value) :: rest
      | .gt => (k, v) :: insert key value rest

/-- A map from entries; the last of several entries of one key wins. -/
def mapOf (entries : List (Value × Value)) : Value :=
  .map (entries.foldl (fun found (key, value) => insert key value found) [])

/-- The entries of a map of any sort. -/
def entries? : Value → Option (List (Value × Value))
  | .map entries => some entries
  | .named arguments => some (arguments.map fun (name, value) => (text name, value))
  | .loop facts _ _ => some (facts.map fun (name, value) => (text name, value))
  | .space _ entries => some (entries.map fun (name, value) => (text name, value))
  | _ => Option.none

mutual

def equals : Value → Value → Bool
  | .undefined, b => b.isUndefined
  | .none, b =>
      match b with
      | .none => true
      | _ => false
  | .string s _, b =>
      match b with
      | .string t _ => s == t
      | _ => false
  | .seq xs, b =>
      (b.kind == .sequence || b.kind == .iterable) && equalItems xs (b.items?.getD [])
  | .iterable _ xs, b =>
      (b.kind == .sequence || b.kind == .iterable) && equalItems xs (b.items?.getD [])
  | .map xs, b =>
      match b.entries? with
      | some ys => xs.length == ys.length && equalEntries xs ys
      | Option.none => false
  | .group key xs, b =>
      (b.kind == .sequence || b.kind == .iterable) &&
        match b.items?.getD [] with
        | [y, z] => equals key y && (z.kind == .sequence || z.kind == .iterable) &&
            equalItems xs (z.items?.getD [])
        | _ => false
  | .named xs, b => equalNames xs b
  | .loop xs _ _, b => equalNames xs b
  | .space _ xs, b => equalNames xs b
  | .bool x, b => equalOther (.bool x) b
  | .integer x, b => equalOther (.integer x) b
  | .float x, b => equalOther (.float x) b
  | .function x, b =>
      match b with
      | .function y => x == y
      | _ => false
  | .routine r i, b =>
      match b with
      | .routine q j => r.name == q.name && i == j
      | _ => false

def equalOther (a b : Value) : Bool :=
  match numbers? false a b with
  | some pair => equalNumbers pair
  | Option.none => false

def equalItems : List Value → List Value → Bool
  | [], [] => true
  | x :: xs, y :: ys => equals x y && equalItems xs ys
  | _, _ => false

/-- Every entry is found among others. -/
def equalEntries : List (Value × Value) → List (Value × Value) → Bool
  | [], _ => true
  | (key, x) :: xs, ys =>
      (match lookup key ys with
        | some y => equals x y
        | Option.none => false) && equalEntries xs ys

/-- Names with values are found among the entries of a map. -/
def equalNames (xs : List (String × Value)) (b : Value) : Bool :=
  match b.entries? with
  | some ys => xs.length == ys.length && foundNames xs ys
  | Option.none => false

def foundNames : List (String × Value) → List (Value × Value) → Bool
  | [], _ => true
  | (name, x) :: xs, ys =>
      (match lookup (text name) ys with
        | some y => equals x y
        | Option.none => false) && foundNames xs ys

end

/-! ## Parts -/

/-- The part of a value under a name. -/
def attribute? (name : String) : Value → Option Value
  | .map entries => lookup (text name) entries
  | .named arguments => arguments.lookup name
  | .loop facts _ _ => facts.lookup name
  | .space _ entries => entries.lookup name
  | .group key items =>
      if name = "grouper" then some key
      else if name = "list" then some (.iterable true items)
      else Option.none
  | .routine r _ =>
      if name = "name" then some (text r.name)
      else if name = "arguments" then some (.seq (r.parameters.map fun p => text p.1))
      else if name = "caller" then some (.bool r.usesCaller)
      else Option.none
  | _ => Option.none

/-- An item by its number; negative numbers count from the end. -/
def nth? (index : Int) (items : List Value) : Option Value :=
  if 0 ≤ index then items[index.toNat]?
  else
    let fromEnd := index.natAbs
    if fromEnd ≤ items.length then items[items.length - fromEnd]? else Option.none

/-- The part of a value under a key or a number. -/
def item? (key : Value) : Value → Option Value
  | .seq items => key.index?.bind fun i => nth? i items
  | .iterable sized items =>
      key.index?.bind fun i => if i < 0 ∧ !sized then Option.none else nth? i items
  | .string s _ => key.index?.bind fun i => nth? i (chars s)
  | .group k items =>
      match key.string? with
      | some name => attribute? name (.group k items)
      | Option.none => key.index?.bind fun i => nth? i [k, .iterable true items]
  | .routine r i => key.string?.bind fun name => attribute? name (.routine r i)
  | other => other.entries?.bind (lookup key)

/-- An item, where a part of the undefined value is a fault. -/
def item (key value : Value) : Except Fault Value :=
  match value.item? key with
  | some found => .ok found
  | Option.none => if value.isUndefined then .error (.ofKind .undefinedValue) else .ok .undefined

/-- The pieces of a text between points. -/
def pathParts (path : List Char) : List (List Char) :=
  path.foldr (fun c parts =>
    if c = '.' then [] :: parts
    else
      match parts with
      | [] => [[c]]
      | part :: rest => (c :: part) :: rest) [[]]

/-- The part that a path of names and numbers leads to. -/
def path (path : String) (value : Value) : Except Fault Value :=
  (pathParts path.toList).foldlM (fun value part =>
    let key : Value :=
      if !part.isEmpty && part.all Char.isDigit then
        .integer (part.foldl (fun n c => n * 10 + (c.toNat - 48)) 0)
      else text (String.ofList part)
    value.item key) value

end Value
end Template
end EventRules
