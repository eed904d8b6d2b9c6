import EventRules.Number.Binary64

/-!
# Similar — words that may have been meant

Two words are compared by the characters that they share at nearby places, and by how many of those
stand in another order.  The similarity is a double between 0 and 1.

* `Text.similarity` — how similar two words are;
* `Text.similar` — the words of a list that are similar to a word, the most similar last.
-/

namespace EventRules
namespace Text

/-- The characters of a word, each with whether it is taken. -/
abbrev Places := List (Char × Bool)

/-- Takes the first free place from `low` up to `high` that holds a character, if there is one. -/
def take? (c : Char) : (low high : Nat) → Places → Option Places
  | _, _, [] => none
  | _, 0, _ => none
  | low + 1, high + 1, place :: rest => (take? c low high rest).map (place :: ·)
  | 0, high + 1, (d, taken) :: rest =>
      if c = d && !taken then some ((d, true) :: rest)
      else (take? c 0 high rest).map ((d, taken) :: ·)

/-- The characters that find a free place not farther than `reach` from their own, and the places
after that. -/
def shared (reach : Nat) : (index : Nat) → List Char → Places → List Char × Places
  | _, [], places => ([], places)
  | index, c :: rest, places =>
      match take? c (index - reach) (index + reach + 1) places with
      | some after =>
          let (others, after) := shared reach (index + 1) rest after
          (c :: others, after)
      | none => shared reach (index + 1) rest places

/-- How many of the shared characters stand in another order, in pairs. -/
def transpositions (cs ds : List Char) : Nat := ((cs.zip ds).countP fun (c, d) => c != d) / 2

def similarity (a b : String) : Binary64 :=
  let reach := max a.length b.length / 2 - 1
  let (cs, places) := shared reach 0 a.toList (b.toList.map fun c => (c, false))
  let ds := (places.filter fun (_, taken) => taken).map fun (c, _) => c
  if a.isEmpty && b.isEmpty then .ofNat 1
  else if cs.isEmpty then .zero
  else
    let part (n whole : Nat) : Binary64 := (Binary64.ofNat n).div (.ofNat whole)
    let inOrder := cs.length - transpositions cs ds
    (((part cs.length a.length).add (part cs.length b.length)).add (part inOrder cs.length)).div
      (.ofNat 3)

/-- What a similarity has to be above. -/
def similarityThreshold : Binary64 := .ofDecimal false 7 (-1)

def isAbove (x y : Binary64) : Bool := x.compare? y == some .gt

/-- Puts a word behind all that are not more similar. -/
def placed (word : Binary64 × String) : List (Binary64 × String) → List (Binary64 × String)
  | [] => [word]
  | first :: rest =>
      if isAbove first.1 word.1 then word :: first :: rest else first :: placed word rest

/-- The words that are similar to a given one; the most similar is the last. -/
def similar (word : String) (words : List String) : List String :=
  let rated := words.map fun other => (similarity word other, other)
  let near := rated.filter fun (x, _) => isAbove x similarityThreshold
  (near.foldl (fun sorted next => placed next sorted) []).map fun (_, other) => other

end Text
end EventRules
