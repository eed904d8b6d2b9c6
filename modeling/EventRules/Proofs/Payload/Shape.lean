import EventRules.Proofs.Payload.Action

/-!
# Shape — the two shapes that classification accepts

A payload is told by its shape alone.  Whatever names a type is an action or nothing at all; only what
names none can be an update of a property.

* `Json.IsAction`, `Json.IsPropertyUpdate` — the two shapes;
* `Payload.exists_action_iff`, `Payload.exists_property_iff` — what is classified as the one or the other;
* `Payload.exists_error_of_shapeless` — and everything else.
-/

namespace EventRules

/-! ## Shapes -/

/-- An object with a type, whose two optional fields are well-typed or null if they are there. -/
structure Json.IsAction (value : Json) : Prop where
  object : ∃ entries, value = .object entries
  type : ∃ s, s ≠ "" ∧ value.get? "type" = some (.string s)
  thngId : ∀ own, value.get? "thngId" = some own → own = .null ∨ ∃ s, own = .string s
  customFields : ∀ own, value.get? "customFields" = some own →
    own = .null ∨ ∃ fields, own = .object fields

/-- An object with a key and a value, null or not, and without a type. -/
structure Json.IsPropertyUpdate (value : Json) : Prop where
  object : ∃ entries, value = .object entries
  noType : ∀ s, value.get? "type" = some (.string s) → s = ""
  key : ∃ s, s ≠ "" ∧ value.get? "key" = some (.string s)
  content : ∃ own, value.get? "value" = some own

namespace Payload

/-! ## Classification -/

theorem isNonEmptyText_iff {own : Option Json} :
    isNonEmptyText own = true ↔ ∃ s, s ≠ "" ∧ own = some (.string s) := by
  constructor
  · intro h
    rcases own with _ | value
    · cases h
    · cases value with
      | string s =>
          exact ⟨s, by simpa [isNonEmptyText] using h, rfl⟩
      | _ =>
          cases h
  · rintro ⟨s, hs, rfl⟩
    simpa [isNonEmptyText] using hs

theorem classify_eq_action_iff {value : Json} {action : ActionPayload} :
    classify value = .ok (.action action) ↔
      (∃ s, s ≠ "" ∧ value.get? "type" = some (.string s)) ∧
      ActionPayload.ofJson value = .ok action := by
  rw [← isNonEmptyText_iff, classify]
  cases isNonEmptyText (value.get? "type") with
  | true =>
      cases ActionPayload.ofJson value <;> simp
  | false =>
      -- without a type there is at best an update
      simp only [Bool.false_eq_true, if_false, false_and, iff_false]
      split
      · split <;> simp
      · simp

theorem classify_eq_property_iff {value : Json} {update : PropertyPayload} :
    classify value = .ok (.property update) ↔
      (∀ s, value.get? "type" = some (.string s) → s = "") ∧ update.key ≠ "" ∧
      value.get? "key" = some (.string update.key) ∧ value.get? "value" = some update.value := by
  have hnoType : (∀ s, value.get? "type" = some (.string s) → s = "") ↔
      isNonEmptyText (value.get? "type") = false := by
    rw [← Bool.not_eq_true, isNonEmptyText_iff]
    simp only [not_exists, not_and, ne_eq]
    exact forall_congr' fun s => ⟨fun h hs htype => hs (h htype), fun h htype => not_not.1 (h · htype)⟩
  rw [hnoType, classify]
  rcases update with ⟨key, content⟩
  cases isNonEmptyText (value.get? "type") with
  | true =>
      cases ActionPayload.ofJson value <;> simp
  | false =>
      simp only [Bool.false_eq_true, if_false, true_and]
      split
      · rename_i own found hkey hvalue
        rw [hkey, hvalue]
        constructor
        · intro h
          split at h
          · cases h
          · cases h
            exact ⟨by assumption, rfl, rfl⟩
        · rintro ⟨hne, hsame, hfound⟩
          cases hsame
          cases hfound
          exact if_neg hne
      · rename_i hneither
        refine iff_of_false (by simp) ?_
        rintro ⟨-, hkey, hvalue⟩
        exact hneither key content hkey hvalue

/-- What is classified as an action has its shape. -/
theorem exists_action_iff {value : Json} (canonical : value.Canonical) :
    (∃ action, classify value = .ok (.action action)) ↔ value.IsAction := by
  constructor
  · rintro ⟨action, h⟩
    obtain ⟨htype, hread⟩ := classify_eq_action_iff.1 h
    have reads := (ActionPayload.ofJson_eq_ok_iff canonical).1 hread
    obtain ⟨s, hs, hown⟩ := htype
    exact ⟨Json.exists_object_of_get? hown, ⟨s, hs, hown⟩, reads.thngId_shape,
      reads.customFields_shape⟩
  · intro shape
    obtain ⟨s, hs, htype⟩ := shape.type
    obtain ⟨action, hread⟩ :=
      ActionPayload.exists_ofJson canonical ⟨s, htype⟩ shape.thngId shape.customFields
    exact ⟨action, classify_eq_action_iff.2 ⟨⟨s, hs, htype⟩, hread⟩⟩

/-- What is classified as an update of a property has its shape. -/
theorem exists_property_iff {value : Json} :
    (∃ update, classify value = .ok (.property update)) ↔ value.IsPropertyUpdate := by
  constructor
  · rintro ⟨update, h⟩
    obtain ⟨hnoType, hkey, hown, hcontent⟩ := classify_eq_property_iff.1 h
    exact ⟨Json.exists_object_of_get? hown, hnoType, ⟨update.key, hkey, hown⟩,
      ⟨update.value, hcontent⟩⟩
  · intro shape
    obtain ⟨key, hkey, hown⟩ := shape.key
    obtain ⟨content, hcontent⟩ := shape.content
    exact ⟨⟨key, content⟩, classify_eq_property_iff.2 ⟨shape.noType, hkey, hown, hcontent⟩⟩

/-- A value of neither shape is not classified. -/
theorem exists_error_of_shapeless {value : Json} (canonical : value.Canonical)
    (noAction : ¬ value.IsAction) (noUpdate : ¬ value.IsPropertyUpdate) :
    ∃ problem, classify value = .error problem := by
  cases h : classify value with
  | error problem =>
      exact ⟨problem, rfl⟩
  | ok payload =>
      cases payload with
      | action action =>
          exact absurd ((exists_action_iff canonical).1 ⟨action, h⟩) noAction
      | property update =>
          exact absurd (exists_property_iff.1 ⟨update, h⟩) noUpdate

end Payload
end EventRules
