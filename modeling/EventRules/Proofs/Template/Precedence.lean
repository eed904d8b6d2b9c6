import EventRules.Proofs.Json.Place
import EventRules.Proofs.Template.Texts
import EventRules.Proofs.Text.Bytes

/-!
# Precedence — which of several faults a template is told

The texts of a template stand at places, and places have an order: items by their number, entries by
the bytes of their names, the outer step before the inner one.  Of all texts that are at fault the
template is told about the first in that order.

* `Json.Precedes` — the order of places;
* `Json.textsAt` — the texts of a value with their places, `Json.inOrder_textsAt` — in that order;
* `OutputTemplate.FailsFirstAt` — the first text that is at fault;
* `OutputTemplate.renderTree_eq_error_iff` — that rendering fails with it.
-/

namespace EventRules
namespace Json

/-! ## Places -/

/-- An item stands before the later items of its list, an entry before those whose name has greater
bytes. -/
inductive Step.Before : Step → Step → Prop where
  | name {m n : String} : Text.bytes m < Text.bytes n → Before (.name m) (.name n)
  | index {i j : Nat} : i < j → Before (.index i) (.index j)

instance : Std.Asymm Step.Before where
  asymm := by
    rintro _ _ (hless | hless) (hmore | hmore)
    · exact List.lt_asymm hless hmore
    · exact Nat.lt_asymm hless hmore

/-- A place comes before another one if it does where they part. -/
def Precedes : List Step → List Step → Prop := List.Lex Step.Before

instance : Std.Asymm Precedes := inferInstanceAs (Std.Asymm (List.Lex Step.Before))

/-! ## Texts and their places -/

/-- What is found inside of a part, seen from the whole. -/
def behind (step : Step) (found : List Step × String) : List Step × String :=
  (step :: found.1, found.2)

mutual

/-- The texts of a value with their places, in the order in which they are rendered. -/
def textsAt : Json → List (List Step × String)
  | .string s => [([], s)]
  | .array items => textsAtItems 0 items
  | .object entries => textsAtEntries entries
  | _ => []

def textsAtItems (index : Nat) : List Json → List (List Step × String)
  | [] => []
  | item :: rest => item.textsAt.map (behind (.index index)) ++ textsAtItems (index + 1) rest

def textsAtEntries : List (String × Json) → List (List Step × String)
  | [] => []
  | (name, value) :: rest => value.textsAt.map (behind (.name name)) ++ textsAtEntries rest

end

mutual

theorem map_snd_textsAt : ∀ value : Json, value.textsAt.map Prod.snd = value.texts
  | .string _ => rfl
  | .array items => map_snd_textsAtItems 0 items
  | .object entries => map_snd_textsAtEntries entries
  | .null => rfl
  | .bool _ => rfl
  | .number _ => rfl

theorem map_snd_textsAtItems (index : Nat) : ∀ items : List Json,
    (textsAtItems index items).map Prod.snd = textsOfItems items
  | [] => rfl
  | item :: rest => by
      rw [textsAtItems, textsOfItems, List.map_append, List.map_map,
        map_snd_textsAtItems (index + 1) rest, ← map_snd_textsAt item]
      rfl

theorem map_snd_textsAtEntries : ∀ entries : List (String × Json),
    (textsAtEntries entries).map Prod.snd = textsOfEntries entries
  | [] => rfl
  | (name, value) :: rest => by
      rw [textsAtEntries, textsOfEntries, List.map_append, List.map_map,
        map_snd_textsAtEntries rest, ← map_snd_textsAt value]
      rfl

end

/-! ## Membership -/

theorem mem_behind {found : List (List Step × String)} {step : Step} {place : List Step}
    {s : String} : (place, s) ∈ found.map (behind step) ↔
      ∃ inner, place = step :: inner ∧ (inner, s) ∈ found := by
  constructor
  · intro h
    obtain ⟨⟨inner, t⟩, hmem, hsame⟩ := List.mem_map.1 h
    cases hsame
    exact ⟨inner, rfl, hmem⟩
  · rintro ⟨inner, rfl, hmem⟩
    exact List.mem_map.2 ⟨(inner, s), hmem, rfl⟩

theorem mem_textsAtItems {index : Nat} {items : List Json} {place : List Step} {s : String} :
    (place, s) ∈ textsAtItems index items ↔
      ∃ i item inner, items[i]? = some item ∧ place = .index (index + i) :: inner ∧
        (inner, s) ∈ item.textsAt := by
  induction items generalizing index with
  | nil =>
      simp [textsAtItems]
  | cons first rest ih =>
      rw [textsAtItems, List.mem_append, mem_behind, ih]
      constructor
      · rintro (⟨inner, rfl, hmem⟩ | ⟨i, item, inner, hitem, rfl, hmem⟩)
        · exact ⟨0, first, inner, rfl, rfl, hmem⟩
        · exact ⟨i + 1, item, inner, hitem, by rw [Nat.add_assoc, Nat.add_comm 1], hmem⟩
      · rintro ⟨i, item, inner, hitem, rfl, hmem⟩
        cases i with
        | zero =>
            cases hitem
            exact .inl ⟨inner, rfl, hmem⟩
        | succ i =>
            exact .inr ⟨i, item, inner, hitem, by rw [Nat.add_assoc, Nat.add_comm 1], hmem⟩

theorem mem_textsAtEntries {entries : List (String × Json)} {place : List Step} {s : String} :
    (place, s) ∈ textsAtEntries entries ↔
      ∃ name value inner, (name, value) ∈ entries ∧ place = .name name :: inner ∧
        (inner, s) ∈ value.textsAt := by
  induction entries with
  | nil =>
      simp [textsAtEntries]
  | cons first rest ih =>
      rcases first with ⟨own, found⟩
      rw [textsAtEntries, List.mem_append, mem_behind, ih]
      constructor
      · rintro (⟨inner, rfl, hmem⟩ | ⟨name, value, inner, hentry, rfl, hmem⟩)
        · exact ⟨own, found, inner, List.mem_cons_self, rfl, hmem⟩
        · exact ⟨name, value, inner, List.mem_cons_of_mem _ hentry, rfl, hmem⟩
      · rintro ⟨name, value, inner, hentry, rfl, hmem⟩
        rcases List.mem_cons.1 hentry with hhere | hlater
        · cases hhere
          exact .inl ⟨inner, rfl, hmem⟩
        · exact .inr ⟨name, value, inner, hlater, rfl, hmem⟩

/-- What stands behind a step stands in the part that the step leads to. -/
theorem mem_textsAt_cons {value : Json} (canonical : value.Canonical) {step : Step}
    {rest : List Step} {s : String} :
    (step :: rest, s) ∈ value.textsAt ↔
      ∃ part, part? step value = some part ∧ (rest, s) ∈ part.textsAt := by
  cases value with
  | array items =>
      rw [textsAt, mem_textsAtItems]
      constructor
      · rintro ⟨i, item, inner, hitem, hplace, hmem⟩
        cases hplace
        rw [Nat.zero_add]
        exact ⟨item, hitem, hmem⟩
      · rintro ⟨part, hpart, hmem⟩
        cases step with
        | name name =>
            cases hpart
        | index index =>
            exact ⟨index, part, rest, hpart, by rw [Nat.zero_add], hmem⟩
  | object entries =>
      -- a name stands once, so its entry is the one that is found under it
      have hlookup : ∀ {name : String} {part : Json},
          (name, part) ∈ entries ↔ entries.lookup name = some part :=
        mem_iff_lookup (Fields.nodup_of_sorted canonical.1)
      rw [textsAt, mem_textsAtEntries]
      constructor
      · rintro ⟨name, value, inner, hentry, hplace, hmem⟩
        cases hplace
        exact ⟨value, hlookup.1 hentry, hmem⟩
      · rintro ⟨part, hpart, hmem⟩
        cases step with
        | name name =>
            exact ⟨name, part, rest, hlookup.2 hpart, rfl, hmem⟩
        | index index =>
            cases hpart
  | _ =>
      cases step <;> simp [textsAt, part?, get?]

/-- The texts of a value are the texts that stand at its places. -/
theorem mem_textsAt_iff {value : Json} (canonical : value.Canonical) {place : List Step}
    {s : String} : (place, s) ∈ value.textsAt ↔ value.at? place = some (.string s) := by
  induction place generalizing value with
  | nil =>
      cases value with
      | array items =>
          simp [textsAt, mem_textsAtItems, at?]
      | object entries =>
          simp [textsAt, mem_textsAtEntries, at?]
      | _ =>
          simp [textsAt, at?, eq_comm]
  | cons step rest ih =>
      rw [mem_textsAt_cons canonical, at?, Option.bind_eq_some_iff]
      exact exists_congr fun part => and_congr_right fun hpart => ih (canonical_part canonical hpart)

/-! ## Their order -/

/-- Texts whose places are in order. -/
abbrev InOrder (found : List (List Step × String)) : Prop :=
  found.Pairwise fun a b => Precedes a.1 b.1

theorem InOrder.behind {found : List (List Step × String)} (h : InOrder found) (step : Step) :
    InOrder (found.map (behind step)) :=
  List.pairwise_map.2 (h.imp fun hless => .cons hless)

mutual

theorem inOrder_textsAt : ∀ {value : Json}, value.Canonical → InOrder value.textsAt
  | .string _, _ => List.pairwise_singleton _ _
  | .array _, h => inOrder_textsAtItems 0 h
  | .object _, ⟨sorted, h⟩ => inOrder_textsAtEntries sorted h
  | .null, _ => .nil
  | .bool _, _ => .nil
  | .number _, _ => .nil

theorem inOrder_textsAtItems (index : Nat) : ∀ {items : List Json}, CanonicalItems items →
    InOrder (textsAtItems index items)
  | [], _ => .nil
  | item :: rest, ⟨hfirst, hrest⟩ => by
      rw [textsAtItems, InOrder, List.pairwise_append]
      refine ⟨(inOrder_textsAt hfirst).behind _, inOrder_textsAtItems (index + 1) hrest, ?_⟩
      -- the first item and a later one already part at their numbers
      rintro ⟨place, s⟩ hhere ⟨other, t⟩ hlater
      obtain ⟨inner, rfl, -⟩ := mem_behind.1 hhere
      obtain ⟨i, part, inner', -, rfl, -⟩ := mem_textsAtItems.1 hlater
      exact .rel (.index (by omega))

theorem inOrder_textsAtEntries : ∀ {entries : List (String × Json)}, Fields.Sorted entries →
    CanonicalEntries entries → InOrder (textsAtEntries entries)
  | [], _, _ => .nil
  | (name, value) :: rest, sorted, ⟨hfirst, hrest⟩ => by
      obtain ⟨hbelow, hsorted⟩ := List.pairwise_cons.1 sorted
      rw [textsAtEntries, InOrder, List.pairwise_append]
      refine ⟨(inOrder_textsAt hfirst).behind _, inOrder_textsAtEntries hsorted hrest, ?_⟩
      rintro ⟨place, s⟩ hhere ⟨other, t⟩ hlater
      obtain ⟨inner, rfl, -⟩ := mem_behind.1 hhere
      obtain ⟨own, part, inner', hentry, rfl, -⟩ := mem_textsAtEntries.1 hlater
      exact .rel (.name (Text.bytes_lt (hbelow _ hentry)))

end

end Json

/-! ## The first fault -/

/-- In a list in order, the first answer is the one before which there is none. -/
theorem findSome?_eq_some_iff_of_pairwise {α β : Type} {R : α → α → Prop} [Std.Asymm R]
    {f : α → Option β} {l : List α} (sorted : l.Pairwise R) {answer : β} :
    l.findSome? f = some answer ↔
      ∃ a ∈ l, f a = some answer ∧ ∀ x ∈ l, R x a → f x = none := by
  constructor
  · intro h
    obtain ⟨before, a, after, rfl, hanswer, hbefore⟩ := List.findSome?_eq_some_iff.1 h
    refine ⟨a, List.mem_append_right _ List.mem_cons_self, hanswer, fun x hx hless => ?_⟩
    have hafter := (List.pairwise_cons.1 (List.pairwise_append.1 sorted).2.1).1
    -- what stands after the answer does not stand before it
    rcases List.mem_append.1 hx with hearlier | hlater
    · exact hbefore x hearlier
    · rcases List.mem_cons.1 hlater with rfl | hlater
      · exact absurd hless (Std.Asymm.asymm _ _ hless)
      · exact absurd hless (Std.Asymm.asymm _ _ (hafter x hlater))
  · rintro ⟨a, ha, hanswer, hnone⟩
    obtain ⟨before, after, rfl⟩ := List.mem_iff_append.1 ha
    refine List.findSome?_eq_some_iff.2 ⟨before, a, after, rfl, hanswer, fun x hx => ?_⟩
    have hless := (List.pairwise_append.1 sorted).2.2 x hx a List.mem_cons_self
    exact hnone x (List.mem_append_left _ hx) hless

namespace OutputTemplate

open Template (Value)
open Json (Step)

/-- The text at a place is at fault, and no text at a place before it is. -/
structure FailsFirstAt (context : Value) (tree : Json) (place : List Step) (s : String)
    (fault : OutputFault) : Prop where
  stands : tree.at? place = some (.string s)
  fails : renderText context s = .error fault
  first : ∀ other t, tree.at? other = some (.string t) → Json.Precedes other place →
    ∃ value, renderText context t = .ok value

/-- Rendering fails with the fault of the first text that has one. -/
theorem renderTree_eq_error_iff {template : OutputTemplate} {input : Json} {fault : OutputFault} :
    template.renderTree input = .error fault ↔
      ∃ place s, FailsFirstAt (.ofJson input) template.tree.value place s fault := by
  have canonical := template.tree.canonical
  have hfirst : faultOf (template.renderTree input) =
      template.tree.value.textsAt.findSome? fun found =>
        faultOf (renderText (.ofJson input) found.2) := by
    rw [faultOf_renderTree, ← Json.map_snd_textsAt, List.findSome?_map]
    rfl
  rw [← faultOf_eq_some_iff, hfirst,
    findSome?_eq_some_iff_of_pairwise (Json.inOrder_textsAt canonical)]
  constructor
  · rintro ⟨⟨place, s⟩, hmem, hfault, hearlier⟩
    refine ⟨place, s, (Json.mem_textsAt_iff canonical).1 hmem, faultOf_eq_some_iff.1 hfault, ?_⟩
    intro other t hat hless
    exact faultOf_eq_none_iff.1
      (hearlier (other, t) ((Json.mem_textsAt_iff canonical).2 hat) hless)
  · rintro ⟨place, s, stands, fails, first⟩
    refine ⟨(place, s), (Json.mem_textsAt_iff canonical).2 stands, faultOf_eq_some_iff.2 fails, ?_⟩
    rintro ⟨other, t⟩ hmem hless
    exact faultOf_eq_none_iff.2 (first other t ((Json.mem_textsAt_iff canonical).1 hmem) hless)

end OutputTemplate
end EventRules
