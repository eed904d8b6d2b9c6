import EventRules.Proofs.Json.Canonical

/-!
# Place — the parts of a value

* `Json.part?`, `Json.at?` — the part of a value behind one step, and behind several;
* `Json.canonical_at` — the parts of a value in canonical form.
-/

namespace EventRules
namespace Json

/-- A step from a value to one of its parts. -/
inductive Step where
  | name (name : String)
  | index (index : Nat)
  deriving DecidableEq

def part? : Step → Json → Option Json
  | .name name, value => value.get? name
  | .index index, .array items => items[index]?
  | .index _, _ => none

/-- The part of a value at a place, counted from the whole value. -/
def at? (value : Json) : List Step → Option Json
  | [] => some value
  | step :: rest => (part? step value).bind fun part => part.at? rest

theorem at?_name (value : Json) (name : String) : value.at? [.name name] = value.get? name := by
  cases h : value.get? name <;> simp [at?, part?, h]

theorem at?_concat (value : Json) (place : List Step) (step : Step) :
    value.at? (place ++ [step]) = (value.at? place).bind (part? step) := by
  induction place generalizing value with
  | nil =>
      cases h : part? step value <;> simp [at?, h]
  | cons first rest ih =>
      rw [List.cons_append, at?, at?, Option.bind_assoc]
      exact Option.bind_congr fun part _ => ih part

/-! ## Parts of values in canonical form -/

theorem CanonicalItems.item {items : List Json} (h : CanonicalItems items) {item : Json}
    (hitem : item ∈ items) : item.Canonical := by
  induction items with
  | nil =>
      cases hitem
  | cons first rest ih =>
      rcases List.mem_cons.1 hitem with rfl | hlater
      · exact h.1
      · exact ih h.2 hlater

theorem canonical_part {step : Step} {value part : Json} (h : value.Canonical)
    (hpart : part? step value = some part) : part.Canonical := by
  cases value with
  | object entries =>
      cases step with
      | name name =>
          exact h.2.value (mem_of_lookup hpart)
      | index index =>
          cases hpart
  | array items =>
      cases step with
      | name name =>
          cases hpart
      | index index =>
          exact CanonicalItems.item h (List.mem_of_getElem? hpart)
  | _ =>
      cases step <;> cases hpart

theorem canonical_at {place : List Step} {value part : Json} (h : value.Canonical)
    (hpart : value.at? place = some part) : part.Canonical := by
  induction place generalizing value with
  | nil =>
      cases hpart
      exact h
  | cons step rest ih =>
      obtain ⟨next, hnext, hrest⟩ := Option.bind_eq_some_iff.1 hpart
      exact ih (canonical_part h hnext) hrest

end Json
end EventRules
