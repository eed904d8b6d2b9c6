import EventRules.Json.Basic
import EventRules.Proofs.Json.Fields

/-!
# Canonical — values in canonical form

* `Json.canonical_of_canonical` — a canonical value is its own canonical form;
* `Json.get?_ofEntries`, `Json.get?_canonical_object` — the entries of objects in canonical form.
-/

namespace EventRules
namespace Json

theorem canonicalItems_iff {items : List Json} :
    CanonicalItems items ↔ ∀ item ∈ items, item.Canonical := by
  induction items with
  | nil =>
      simp [CanonicalItems]
  | cons first rest ih =>
      rw [CanonicalItems, ih, List.forall_mem_cons]

mutual

theorem canonical_of_canonical : ∀ {value : Json}, value.Canonical → value.canonical = value
  | .array items, h => by
      rw [canonical, canonicalItems_of_canonical h]
  | .object entries, ⟨sorted, h⟩ => by
      rw [canonical, canonicalEntries_of_canonical h, Fields.ofList_of_sorted sorted]
  | .null, _ => rfl
  | .bool _, _ => rfl
  | .number _, _ => rfl
  | .string _, _ => rfl

theorem canonicalItems_of_canonical : ∀ {items : List Json}, CanonicalItems items →
    canonicalItems items = items
  | [], _ => rfl
  | item :: rest, ⟨hfirst, hrest⟩ => by
      rw [canonicalItems, canonical_of_canonical hfirst, canonicalItems_of_canonical hrest]

theorem canonicalEntries_of_canonical : ∀ {entries : List (String × Json)},
    CanonicalEntries entries → canonicalEntries entries = entries
  | [], _ => rfl
  | (name, value) :: rest, ⟨hfirst, hrest⟩ => by
      rw [canonicalEntries, canonical_of_canonical hfirst, canonicalEntries_of_canonical hrest]

end

/-- Being put in canonical form once is enough. -/
theorem canonical_idem (value : Json) : value.canonical.canonical = value.canonical :=
  canonical_of_canonical (canonical_canonical value)

theorem canonical_eq_self_iff {value : Json} : value.canonical = value ↔ value.Canonical :=
  ⟨fun h => h ▸ canonical_canonical value, canonical_of_canonical⟩

instance (value : Json) : Decidable value.Canonical :=
  decidable_of_iff _ canonical_eq_self_iff

namespace Ordered

/-- A value that carries its order is what is made of it. -/
theorem ofJson_value (ordered : Ordered) : ofJson ordered.value = ordered :=
  Ordered.ext (canonical_of_canonical ordered.canonical)

end Ordered

/-- Only null is null in canonical form. -/
theorem canonical_ne_null {value : Json} (h : value ≠ .null) : value.canonical ≠ .null := by
  cases value <;> simp_all [canonical]

theorem lookup_canonicalEntries (entries : List (String × Json)) (name : String) :
    (canonicalEntries entries).lookup name = (entries.lookup name).map canonical := by
  induction entries with
  | nil =>
      rfl
  | cons first rest ih =>
      rcases first with ⟨own, value⟩
      rw [canonicalEntries, lookup_cons_ite, lookup_cons_ite, ih]
      split <;> rfl

theorem reverse_canonicalEntries (entries : List (String × Json)) :
    (canonicalEntries entries).reverse = canonicalEntries entries.reverse := by
  have hmap : ∀ entries : List (String × Json),
      canonicalEntries entries = entries.map fun entry => (entry.1, entry.2.canonical) := by
    intro entries
    induction entries with
    | nil =>
        rfl
    | cons first rest ih =>
        rw [canonicalEntries, ih, List.map_cons]
  rw [hmap, hmap, List.map_reverse]

/-- The last entry under a name counts. -/
theorem get?_ofEntries (entries : List (String × Json)) (name : String) :
    (ofEntries entries).get? name = entries.reverse.lookup name :=
  Fields.lookup_ofList entries name

theorem get?_canonical_object (entries : List (String × Json)) (name : String) :
    (object entries).canonical.get? name = (entries.reverse.lookup name).map canonical := by
  have hentries : (object entries).canonical = ofEntries (canonicalEntries entries) := rfl
  rw [hentries, get?_ofEntries, reverse_canonicalEntries, lookup_canonicalEntries]

end Json
end EventRules
