import EventRules.Proofs.Json.Canonical
import EventRules.Proofs.Outcome
import EventRules.Template.Scope
import EventRules.Template.Value.ToJson

/-!
# Conversion — values of JSON among the values of templates

A value of JSON goes into a template and comes out again as it was, apart from the order of its
entries: whole numbers and doubles keep their kind, null is not the undefined value, and a text stays
a text whatever it looks like.

* `Value.toJson_ofJson` — there and back again;
* `Value.canonical_toJson` — whatever comes out is in canonical form;
* `Value.attribute?_ofJson` — the parts of a value that came from an object.
-/

namespace EventRules
namespace Template
namespace Value

mutual

/-- What comes out is the canonical form of what went in. -/
theorem toJson_ofJson : ∀ value : Json, toJson (ofJson value) = .ok value.canonical
  | .null => rfl
  | .bool _ => rfl
  | .number (.integer n inRange) => by
      rw [ofJson, toJson, Number.ofInt?, dif_pos inRange]
      rfl
  | .number (.float _) => rfl
  | .string _ => rfl
  | .array items => by
      rw [ofJson, toJson, itemsToJson_ofItems items]
      rfl
  | .object entries => by
      rw [ofJson, toJson, entriesToJson_ofEntries entries]
      rfl

theorem itemsToJson_ofItems : ∀ items : List Json,
    itemsToJson (ofItems items) = .ok (Json.canonicalItems items)
  | [] => rfl
  | item :: rest => by
      rw [ofItems, itemsToJson, toJson_ofJson item, itemsToJson_ofItems rest]
      rfl

theorem entriesToJson_ofEntries : ∀ entries : List (String × Json),
    entriesToJson (ofEntries entries) = .ok (Json.canonicalEntries entries)
  | [] => rfl
  | (name, value) :: rest => by
      have hname : nameOf (text name) = .ok name := rfl
      rw [ofEntries, entriesToJson, hname, toJson_ofJson value, entriesToJson_ofEntries rest]
      rfl

end

/-! ## Canonical form -/

/-- What is made of an answer is canonical if it is so for every answer. -/
theorem canonical_of_answer {α : Type} {answer : Except Fault α} {make : α → Json} {json : Json}
    (h : (do return make (← answer)) = .ok json)
    (canonical : ∀ found, answer = .ok found → (make found).Canonical) : json.Canonical := by
  obtain ⟨found, hfound, hdone⟩ := ok_of_bind h
  cases hdone
  exact canonical found hfound

mutual

/-- Whatever comes out is canonical. -/
theorem canonical_toJson : ∀ {value : Value} {json : Json}, toJson value = .ok json → json.Canonical
  | .undefined, _, h => by
      cases h
      trivial
  | .none, _, h => by
      cases h
      trivial
  | .bool _, _, h => by
      cases h
      trivial
  | .integer n, _, h => by
      rw [toJson] at h
      split at h <;> cases h
      trivial
  | .float x, _, h => by
      cases h
      cases x <;> trivial
  | .string _ _, _, h => by
      cases h
      trivial
  | .seq _, _, h => canonical_of_answer h fun _ hitems => canonical_itemsToJson hitems
  | .iterable _ _, _, h => canonical_of_answer h fun _ hitems => canonical_itemsToJson hitems
  | .map _, _, h => canonical_of_answer h fun _ hentries =>
      Json.canonical_ofEntries (canonical_entriesToJson hentries)
  | .group _ _, _, h => by
      obtain ⟨key, hkey, hothers⟩ := ok_of_bind h
      obtain ⟨items, hitems, hdone⟩ := ok_of_bind hothers
      cases hdone
      exact ⟨canonical_toJson hkey, canonical_itemsToJson hitems, trivial⟩
  | .named _, _, h => canonical_of_answer h fun _ hentries =>
      Json.canonical_ofEntries (canonical_namesToJson hentries)
  | .loop _ _ _, _, h => canonical_of_answer h fun _ hentries =>
      Json.canonical_ofEntries (canonical_namesToJson hentries)
  | .function _, _, h => by
      cases h
      trivial
  | .routine _ _, _, h => by
      cases h
      trivial
  | .space _ _, _, h => canonical_of_answer h fun _ hentries =>
      Json.canonical_ofEntries (canonical_namesToJson hentries)

theorem canonical_itemsToJson : ∀ {items : List Value} {found : List Json},
    itemsToJson items = .ok found → Json.CanonicalItems found
  | [], _, h => by
      cases h
      trivial
  | _ :: _, _, h => by
      obtain ⟨item, hitem, hothers⟩ := ok_of_bind h
      obtain ⟨rest, hrest, hdone⟩ := ok_of_bind hothers
      cases hdone
      exact ⟨canonical_toJson hitem, canonical_itemsToJson hrest⟩

theorem canonical_entriesToJson : ∀ {entries : List (Value × Value)} {found : List (String × Json)},
    entriesToJson entries = .ok found → Json.CanonicalEntries found
  | [], _, h => by
      cases h
      trivial
  | (_, _) :: _, _, h => by
      obtain ⟨name, -, hown⟩ := ok_of_bind h
      obtain ⟨value, hvalue, hothers⟩ := ok_of_bind hown
      obtain ⟨rest, hrest, hdone⟩ := ok_of_bind hothers
      cases hdone
      exact ⟨canonical_toJson hvalue, canonical_entriesToJson hrest⟩

theorem canonical_namesToJson : ∀ {entries : List (String × Value)} {found : List (String × Json)},
    namesToJson entries = .ok found → Json.CanonicalEntries found
  | [], _, h => by
      cases h
      trivial
  | (_, _) :: _, _, h => by
      obtain ⟨value, hvalue, hothers⟩ := ok_of_bind h
      obtain ⟨rest, hrest, hdone⟩ := ok_of_bind hothers
      cases hdone
      exact ⟨canonical_toJson hvalue, canonical_namesToJson hrest⟩

end

/-! ## Undefined values and namespaces -/

theorem isUndefined_ofJson (value : Json) : (ofJson value).isUndefined = false := by
  cases value with
  | number n =>
      cases n <;> rfl
  | _ =>
      rfl

/-- No value of JSON is a namespace. -/
theorem refreshed_ofJson (scope : Scope) (value : Json) :
    scope.refreshed (ofJson value) = ofJson value := by
  cases value with
  | number n =>
      cases n <;> rfl
  | _ =>
      rfl

/-! ## Parts -/

theorem order_text (a b : String) : order (text a) (text b) = compare a b := by
  rw [text, text, order]

theorem lookup_ofEntries (name : String) (entries : List (String × Json)) :
    lookup (text name) (ofEntries entries) = (entries.lookup name).map ofJson := by
  induction entries with
  | nil =>
      rfl
  | cons first rest ih =>
      rcases first with ⟨own, value⟩
      have hkey : (order (text own) (text name) == .eq) = decide (name = own) := by
        rw [order_text, Bool.eq_iff_iff, beq_iff_eq, Std.compare_eq_iff_eq, decide_eq_true_eq]
        exact eq_comm
      rw [lookup] at ih
      rw [lookup, ofEntries, List.find?_cons, hkey, lookup_cons_ite]
      by_cases h : name = own
      · simp [h]
      · simp only [h, decide_false, if_false]
        exact ih

theorem attribute?_ofJson (name : String) (value : Json) :
    attribute? name (ofJson value) = (value.get? name).map ofJson := by
  cases value with
  | object entries =>
      rw [ofJson, attribute?, lookup_ofEntries]
      rfl
  | number n =>
      cases n <;> rfl
  | _ =>
      rfl

end Value
end Template
end EventRules
