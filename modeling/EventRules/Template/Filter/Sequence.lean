import EventRules.Template.Filter.Number

/-!
# Sequence — filters on sequences and maps

* `Filter.sequences` — the filters by name;
* `Filter.compareAs` — the order in which items are sorted: texts without regard to case, unless asked
  otherwise.
-/

namespace EventRules
namespace Template
namespace Filter

open Arguments

/-- The items of a value, with a message of its own for a value that has none. -/
def itemsOr (message : String) (value : Value) : Except Fault (List Value) :=
  match value.items? with
  | some items => .ok items
  | none => .error (.invalid message)

def listItems (value : Value) : Except Fault (List Value) :=
  itemsOr "cannot convert value to list" value

/-! ## Order -/

/-- Order of values; without regard to case, texts are compared with their letters of ASCII in lower
case. -/
def compareAs (caseSensitive : Bool) (a b : Value) : Ordering :=
  match caseSensitive, a, b with
  | false, .string s _, .string t _ => compare s.toLower t.toLower
  | _, _, _ => a.order b

def sortBy {α : Type} (order : α → α → Ordering) (items : List α) : List α :=
  items.mergeSort fun a b => order a b != .gt

/-- The part that a path leads to, or a default where there is none. -/
def partOr (path : String) (default : Value) (value : Value) : Value :=
  match value.path path with
  | .ok found => if found.isUndefined then default else found
  | .error _ => default

/-- Order by the part that a path leads to; values without it are not moved. -/
def compareParts (caseSensitive : Bool) (path : String) (a b : Value) : Ordering :=
  match a.path path, b.path path with
  | .ok x, .ok y => compareAs caseSensitive x y
  | _, _ => .eq

/-! ## Single items -/

def length (value : Value) : Except Fault Value :=
  match value.length? with
  | some n => .ok (.ofNat n)
  | none => .error (.invalid ("cannot calculate length of value of type " ++ value.kind.text))

def firstItem (value : Value) : Except Fault Value :=
  match value with
  | .undefined | .none => .error (.invalid "cannot get first item from value")
  | other => do
      return (← itemsOr "cannot get first item from value" other).headD .undefined

def lastItem (value : Value) : Except Fault Value :=
  match value.kind with
  | .string | .sequence | .iterable => .ok ((value.items?.getD []).getLastD .undefined)
  | _ => .error (.invalid "cannot get last item from value")

/-- The first of the least items. -/
def least : List Value → Value
  | [] => .undefined
  | item :: rest => rest.foldl (fun best x => if best.order x = .gt then x else best) item

/-- The last of the greatest items. -/
def greatest : List Value → Value
  | [] => .undefined
  | item :: rest => rest.foldl (fun best x => if best.order x = .gt then best else x) item

/-! ## Sequences -/

def sum (value : Value) : Except Fault Value := do
  (← value.items).foldlM (fun total item => if item.isUndefined then .ok total else total.add item)
    (.integer 0)

/-- Texts with a joiner between them, once there is any text. -/
def joined (joiner : String) (items : List Value) : String :=
  items.foldl (fun s item => (if s = "" then s else s ++ joiner) ++ item.display) ""

def joinFilter : Filter := consume do
  let value ← required itself
  let joiner ← optional shown
  return .text (joined (joiner.getD "")
    (← itemsOr ("cannot join value of type " ++ value.kind.text) value))

def sortFilter : Filter := consume do
  let value ← required itself
  let names ← names
  let items ← listItems value
  let caseSensitive ← names.flag "case_sensitive"
  let order ←
    match ← names.get? "attribute" onlyText with
    | some path => pure (compareParts caseSensitive path)
    | none => pure (compareAs caseSensitive)
  let sorted := sortBy order items
  let backwards ← names.flag "reverse"
  names.allIn ["case_sensitive", "attribute", "reverse"]
  return .seq (if backwards then sorted.reverse else sorted)

/-- The first of all items that are the same. -/
def distinct (key : Value → Value) (items : List Value) : List Value :=
  (items.foldl (fun (found : List Value × List Value) item =>
    let (kept, seen) := found
    let k := key item
    if seen.any fun other => k.order other == .eq then found else (item :: kept, k :: seen))
    ([], [])).1.reverse

def uniqueFilter : Filter := consume do
  let value ← required itself
  let names ← names
  let path? ← names.get? "attribute" onlyText
  let caseSensitive ← names.flag "case_sensitive"
  names.allIn ["case_sensitive", "attribute"]
  let items ← value.items
  return .seq (distinct (fun item =>
    let part :=
      match path? with
      | some path => partOr path .undefined item
      | none => item
    match part with
    | .string s _ => .text (if caseSensitive then s else Text.toLower s)
    | other => other) items)

/-- Items in rows of `count`; the last row is filled up. -/
def rows (count : Nat) (filler : Option Value) (items : List Value) : List Value :=
  (List.range ((items.length + count - 1) / count)).map fun row =>
    let found := (items.drop (row * count)).take count
    .seq (match filler with
      | some value => found ++ List.replicate (count - found.length) value
      | none => found)

/-- Items in `count` columns that differ by one item at most; the shorter ones get a filler. -/
def columns (count : Nat) (filler : Option Value) (items : List Value) : List Value :=
  let each := items.length / count
  let longer := items.length % count
  (List.range count).map fun column =>
    let start := column * each + min column longer
    let found := (items.drop start).take (each + if column < longer then 1 else 0)
    .seq (match filler with
      | some value => if longer ≤ column then found ++ [value] else found
      | none => found)

def arranged (arrange : Nat → Option Value → List Value → List Value) : Filter := consume do
  let value ← required itself
  let number ← required count
  let filler ← optional itself
  if number = 0 then throw (.invalid "count cannot be 0")
  else return .seq (arrange number filler (← value.items))

def chainFilter : Filter := consume do
  let value ← required itself
  let all := value :: (← rest)
  if all.all fun v => v.kind == .map then
    return Value.mapOf (all.flatMap fun v => v.entries?.getD [])
  else
    let items ← (all.mapM Value.items : Except Fault (List (List Value)))
    if all.all fun v => v.kind == .sequence then return .seq items.flatten
    else return .iterable false items.flatten

/-- Items of several sequences side by side, up to the end of the shortest one. -/
def zipped (columns : List (List Value)) : List Value :=
  let shortest := (columns.map (·.length)).min?.getD 0
  (List.range shortest).map fun i => .seq (columns.map fun column => column[i]?.getD .undefined)

def zipFilter : Filter := consume do
  let value ← required itself
  let others ← rest
  let items ← ((value :: others).mapM Value.items : Except Fault (List (List Value)))
  return .iterable true (zipped items)

/-! ## Maps -/

def pair (entry : Value × Value) : Value := .seq [entry.1, entry.2]

def entries (value : Value) : Except Fault (List (Value × Value)) :=
  match value.entries? with
  | some found => .ok found
  | none => .error (.invalid "cannot convert value into pair list")

def dictsortFilter : Filter := consume do
  let value ← required itself
  let names ← names
  let entries ← entries value
  let byValue ←
    match ← names.get? "by" onlyText with
    | none | some "key" => pure false
    | some "value" => pure true
    | some other => throw (.invalid ("invalid value '" ++ other ++ "' for 'by' parameter"))
  let caseSensitive ← names.flag "case_sensitive"
  let part (entry : Value × Value) : Value := if byValue then entry.2 else entry.1
  let sorted := sortBy (fun a b => compareAs caseSensitive (part a) (part b)) entries
  let backwards ← names.flag "reverse"
  names.allIn ["by", "case_sensitive", "reverse"]
  return .seq ((if backwards then sorted.reverse else sorted).map pair)

/-- Neighbours that have a key in common. -/
def groups (caseSensitive : Bool) (key : Value → Value) : List Value → List (Value × List Value)
  | [] => []
  | item :: rest =>
      match groups caseSensitive key rest with
      | [] => [(key item, [item])]
      | (other, items) :: more =>
          if compareAs caseSensitive (key item) other = .eq then (other, item :: items) :: more
          else (key item, [item]) :: (other, items) :: more

def groupbyFilter : Filter := consume do
  let value ← required itself
  let given ←
    match ← get with
    | .named _ :: _ => pure none
    | _ => optional onlyText
  let names ← names
  let default := (← names.get? "default" itself).getD .undefined
  let caseSensitive ← names.flag "case_sensitive"
  let path ←
    match given with
    | some path => pure path
    | none =>
        match names.lookup "attribute" with
        | some value => onlyText value
        | none => throw (.of .missingArgument "missing keyword argument 'attribute'")
  let key := partOr path default
  let items ← value.items
  let sorted := sortBy (fun a b => compareAs caseSensitive (key a) (key b)) items
  names.allIn (["default", "case_sensitive"] ++ if given.isSome then [] else ["attribute"])
  return .seq ((groups caseSensitive key sorted).map fun (k, members) => .group k members)

/-! ## Parts and defaults -/

def attrFilter : Filter := consume do
  let value ← required itself
  value.item (← required itself)

def defaultFilter : Filter := consume do
  let value ← required itself
  let other ← optional itself
  let lax ← optional onlyBool
  if value.isUndefined || (lax.getD false && !value.isTrue) then return other.getD (.text "")
  else return value

def sequences : List (String × Filter) := [
  ("length", ofValue length),
  ("count", ofValue length),
  ("first", ofValue firstItem),
  ("last", ofValue lastItem),
  ("min", ofValue fun value => do return least (← listItems value)),
  ("max", ofValue fun value => do return greatest (← listItems value)),
  ("sum", ofValue sum),
  ("join", joinFilter),
  ("sort", sortFilter),
  ("unique", uniqueFilter),
  ("reverse", ofValue Value.reversed),
  ("list", ofValue fun value => do return .seq (← listItems value)),
  ("batch", arranged rows),
  ("slice", arranged columns),
  ("chain", chainFilter),
  ("zip", zipFilter),
  ("items", ofValue fun value => do return .seq ((← entries value).map pair)),
  ("dictsort", dictsortFilter),
  ("groupby", groupbyFilter),
  ("attr", attrFilter),
  ("default", defaultFilter),
  ("d", defaultFilter)]

end Filter
end Template
end EventRules
