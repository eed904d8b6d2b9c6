import EventRules.Proofs.Outcome
import EventRules.Template.Output

/-!
# Output — what can go wrong with an output template

Rendering a value only ever fails in one of its texts.  Being no payload is found out afterwards, from
the rendered value alone.

* `OutputTemplate.renderTree_error` — the faults of rendering;
* `OutputTemplate.render_eq` — rendering first, then classification.
-/

namespace EventRules
namespace OutputTemplate

open Template (Value)

/-- A fault of a text that was being rendered. -/
def IsRenderFault (fault : OutputFault) : Prop :=
  ∃ source message, fault = .unrendered source message

theorem renderText_error {context : Value} {s : String} {fault : OutputFault}
    (h : renderText context s = .error fault) : IsRenderFault fault := by
  simp only [renderText] at h
  split at h
  · cases h
  · cases h
    exact ⟨_, _, rfl⟩

mutual

theorem renderValue_error {context : Value} :
    ∀ {value : Json} {fault : OutputFault},
      renderValue context value = .error fault → IsRenderFault fault
  | .string _, _, h => renderText_error h
  | .array items, fault, h => by
      rcases error_of_bind h with hitems | ⟨_, _, hdone⟩
      · exact renderItems_error hitems
      · cases hdone
  | .object entries, fault, h => by
      rcases error_of_bind h with hentries | ⟨_, _, hdone⟩
      · exact renderEntries_error hentries
      · cases hdone
  | .null, _, h => by cases h
  | .bool _, _, h => by cases h
  | .number _, _, h => by cases h

theorem renderItems_error {context : Value} :
    ∀ {items : List Json} {fault : OutputFault},
      renderItems context items = .error fault → IsRenderFault fault
  | [], _, h => by cases h
  | item :: rest, fault, h => by
      rcases error_of_bind h with hitem | ⟨_, _, hothers⟩
      · exact renderValue_error hitem
      · rcases error_of_bind hothers with hrest | ⟨_, _, hdone⟩
        · exact renderItems_error hrest
        · cases hdone

theorem renderEntries_error {context : Value} :
    ∀ {entries : List (String × Json)} {fault : OutputFault},
      renderEntries context entries = .error fault → IsRenderFault fault
  | [], _, h => by cases h
  | (_, value) :: rest, fault, h => by
      rcases error_of_bind h with hvalue | ⟨rendered, _, hothers⟩
      · exact renderValue_error hvalue
      · rcases error_of_bind hothers with hrest | ⟨_, _, hdone⟩
        · exact renderEntries_error hrest
        · cases rendered <;> cases hdone

end

theorem renderTree_error {template : OutputTemplate} {context : Json} {fault : OutputFault}
    (h : template.renderTree context = .error fault) : IsRenderFault fault := by
  rcases error_of_bind h with hvalue | ⟨_, _, hdone⟩
  · exact renderValue_error hvalue
  · cases hdone

/-- Rendering first, then classification. -/
theorem render_eq (template : OutputTemplate) (context : Json) :
    template.render context =
      match template.renderTree context with
      | .error fault => .error fault
      | .ok value =>
          match Payload.classify value with
          | .ok payload => .ok payload
          | .error problem => .error (.unclassifiable problem) := by
  rw [render]
  cases template.renderTree context with
  | error fault =>
      rfl
  | ok value =>
      simp only [bind, Except.bind]
      cases Payload.classify value with
      | error problem =>
          rfl
      | ok payload =>
          rfl

end OutputTemplate
end EventRules
