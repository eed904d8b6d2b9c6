import EventRules.Proofs.Payload.Shape
import EventRules.Proofs.Template.Conversion
import EventRules.Proofs.Template.Rendering

/-!
# Kind — what no event can change about an output

A template may say in plain words what it puts out: the type of an action, or the key of a property.
Whatever an event brings along then, the payload is of that kind; its data only fill in the rest.

* `OutputTemplate.canonical_renderTree` — values of templates are in canonical form;
* `OutputTemplate.StatesType`, `OutputTemplate.StatesKey` — templates that say their kind;
* `OutputTemplate.stated_kind_stays` — that their payloads are of it.
-/

namespace EventRules
namespace OutputTemplate

open Template

variable {context : Value}

/-! ## Canonical values -/

theorem canonical_renderText {s : String} {found : Json}
    (h : renderText context s = .ok (some found)) : found.Canonical := by
  cases hleaf : Leaf.ofText s with
  | plain t =>
      rw [renderText_eq_ok_iff, hleaf] at h
      obtain ⟨compiled, hcompile, heval⟩ := h
      cases hcompile
      cases heval
      trivial
  | template source =>
      obtain ⟨document, text, -, -, hfound⟩ := (renderText_template_iff hleaf).1 h
      cases hfound
      trivial
  | expression source =>
      obtain ⟨answer, -, ⟨-, hnone⟩ | ⟨-, own, hjson, hfound⟩⟩ := (renderText_expression_iff hleaf).1 h
      · cases hnone
      · cases hfound
        exact Value.canonical_toJson hjson

mutual

theorem canonical_renderValue : ∀ {value found : Json}, value.Canonical →
    renderValue context value = .ok (some found) → found.Canonical
  | .string _, _, _, h => canonical_renderText h
  | .array _, _, canonical, h => by
      obtain ⟨values, hvalues, hdone⟩ := ok_of_bind h
      cases hdone
      exact canonical_renderItems canonical hvalues
  | .object _, _, ⟨sorted, canonical⟩, h => by
      obtain ⟨fields, hfields, hdone⟩ := ok_of_bind h
      cases hdone
      exact ⟨sorted_of_names sorted (names_renderEntries hfields),
        canonical_renderEntries canonical hfields⟩
  | .null, _, _, h => by
      cases h
      trivial
  | .bool _, _, _, h => by
      cases h
      trivial
  | .number _, _, _, h => by
      cases h
      trivial

theorem canonical_renderItems : ∀ {items values : List Json}, Json.CanonicalItems items →
    renderItems context items = .ok values → Json.CanonicalItems values
  | [], _, _, h => by
      cases h
      trivial
  | _ :: _, _, ⟨hfirst, hrest⟩, h => by
      obtain ⟨data, hdata, hothers⟩ := ok_of_bind h
      obtain ⟨others, hvalues, hdone⟩ := ok_of_bind hothers
      cases hdone
      refine ⟨?_, canonical_renderItems hrest hvalues⟩
      cases data with
      | none =>
          trivial
      | some found =>
          exact canonical_renderValue hfirst hdata

theorem canonical_renderEntries : ∀ {entries fields : List (String × Json)},
    Json.CanonicalEntries entries → renderEntries context entries = .ok fields →
      Json.CanonicalEntries fields
  | [], _, _, h => by
      cases h
      trivial
  | (_, _) :: _, _, ⟨hfirst, hrest⟩, h => by
      obtain ⟨data, others, hdata, hothers, rfl⟩ := renderEntries_cons h
      cases data with
      | none =>
          exact canonical_renderEntries hrest hothers
      | some found =>
          exact ⟨canonical_renderValue hfirst hdata, canonical_renderEntries hrest hothers⟩

end

/-- Values of templates are in canonical form. -/
theorem canonical_renderTree {template : OutputTemplate} {input value : Json}
    (h : template.renderTree input = .ok value) : value.Canonical := by
  obtain ⟨data, hdata, hvalue⟩ := ok_of_bind h
  cases hvalue
  cases data with
  | none =>
      trivial
  | some found =>
      exact canonical_renderValue template.tree.canonical hdata

/-! ## Templates that say their kind -/

/-- An object that says the type of its action. -/
structure StatesType (tree : Json) (type : String) : Prop where
  stated : tree.get? "type" = some (.string type)
  nonempty : type ≠ ""
  literal : Leaf.hasMarks type = false
  thngId : tree.get? "thngId" = none ∨
    ∃ s, tree.get? "thngId" = some (.string s) ∧ ¬ IsExpression (.string s)
  customFields : tree.get? "customFields" = none ∨
    ∃ fields, tree.get? "customFields" = some (.object fields)

/-- An object that says the key of its property and has no type. -/
structure StatesKey (tree : Json) (key : String) : Prop where
  noType : tree.get? "type" = none
  stated : tree.get? "key" = some (.string key)
  nonempty : key ≠ ""
  literal : Leaf.hasMarks key = false
  content : ∃ part, tree.get? "value" = some part ∧ ¬ IsExpression part

variable {tree value : Json}

theorem Mirrors.unmarked_entry (mirrors : Mirrors context tree value) {name s : String}
    (h : tree.get? name = some (.string s)) (unmarked : Leaf.hasMarks s = false) :
    value.get? name = some (.string s) := by
  rw [← Json.at?_name] at h ⊢
  exact mirrors.unmarked _ s h unmarked

theorem Mirrors.isAction (mirrors : Mirrors context tree value) {type : String}
    (states : StatesType tree type) : value.IsAction := by
  obtain ⟨entries, hobject⟩ := Json.exists_object_of_get? states.stated
  have htype := mirrors.unmarked_entry states.stated states.literal
  refine ⟨Json.exists_object_of_get? htype, ⟨type, states.nonempty, htype⟩, ?_, ?_⟩
  · intro own hown
    rcases states.thngId with habsent | ⟨s, hs, hnot⟩
    · rw [mirrors.get?_eq_none hobject habsent] at hown
      cases hown
    · rw [← Json.at?_name] at hs hown
      obtain ⟨text, htext⟩ := mirrors.exists_text hs hnot
      rw [htext] at hown
      cases hown
      exact .inr ⟨text, rfl⟩
  · intro own hown
    rcases states.customFields with habsent | ⟨fields, hfields⟩
    · rw [mirrors.get?_eq_none hobject habsent] at hown
      cases hown
    · rw [← Json.at?_name] at hfields hown
      obtain ⟨found, hfound, -⟩ := mirrors.objects _ fields hfields
      rw [hfound] at hown
      cases hown
      exact .inr ⟨found, rfl⟩

theorem Mirrors.isPropertyUpdate (mirrors : Mirrors context tree value) {key : String}
    (states : StatesKey tree key) : value.IsPropertyUpdate := by
  obtain ⟨entries, hobject⟩ := Json.exists_object_of_get? states.stated
  have hkey := mirrors.unmarked_entry states.stated states.literal
  refine ⟨Json.exists_object_of_get? hkey, ?_, ⟨key, states.nonempty, hkey⟩, ?_⟩
  · intro s htype
    rw [mirrors.get?_eq_none hobject states.noType] at htype
    cases htype
  · obtain ⟨part, hpart, hnot⟩ := states.content
    rw [← Json.at?_name] at hpart ⊢
    exact mirrors.exists_part hpart hnot

/-! ## Their payloads -/

theorem render_of_statesType {template : OutputTemplate} {type : String}
    (states : StatesType template.tree.value type) {input value : Json}
    (h : template.renderTree input = .ok value) :
    ∃ action, template.render input = .ok (.action action) ∧ action.type = type := by
  have mirrors := mirrors_of_renderTree h
  obtain ⟨action, hclass⟩ :=
    (Payload.exists_action_iff (canonical_renderTree h)).2 (mirrors.isAction states)
  -- what was read as the type is what the template says, since it was copied
  have htype := mirrors.unmarked_entry states.stated states.literal
  have hread := (Payload.classify_eq_action_iff.1 hclass).2
  have reads := (ActionPayload.ofJson_eq_ok_iff (canonical_renderTree h)).1 hread
  rw [reads.type, Option.some.injEq, Json.string.injEq] at htype
  exact ⟨action, by rw [render_of_value h, hclass]; rfl, htype⟩

theorem render_of_statesKey {template : OutputTemplate} {key : String}
    (states : StatesKey template.tree.value key) {input value : Json}
    (h : template.renderTree input = .ok value) :
    ∃ update, template.render input = .ok (.property update) ∧ update.key = key := by
  have mirrors := mirrors_of_renderTree h
  obtain ⟨update, hclass⟩ := Payload.exists_property_iff.2 (mirrors.isPropertyUpdate states)
  have hkey := mirrors.unmarked_entry states.stated states.literal
  rw [(Payload.classify_eq_property_iff.1 hclass).2.2.1, Option.some.injEq,
    Json.string.injEq] at hkey
  exact ⟨update, by rw [render_of_value h, hclass]; rfl, hkey⟩

/-- If none of its texts fails, a template that says its kind puts out a payload of that kind in every
context, and it is never found to put out no payload. -/
theorem stated_kind_stays (template : OutputTemplate) :
    (∀ type, StatesType template.tree.value type → ∀ input : Json,
      (∀ place s, template.tree.value.at? place = some (.string s) →
        ∃ data, renderText (.ofJson input) s = .ok data) →
      ∃ action, template.render input = .ok (.action action) ∧ action.type = type) ∧
    (∀ key, StatesKey template.tree.value key → ∀ input : Json,
      (∀ place s, template.tree.value.at? place = some (.string s) →
        ∃ data, renderText (.ofJson input) s = .ok data) →
      ∃ update, template.render input = .ok (.property update) ∧ update.key = key) ∧
    ∀ (input : Json) (problem : Unclassifiable),
      (∃ type, StatesType template.tree.value type) ∨ (∃ key, StatesKey template.tree.value key) →
        template.render input ≠ .error (.unclassifiable problem) := by
  refine ⟨fun type states input hall => ?_, fun key states input hall => ?_,
    fun input problem states => ?_⟩
  · obtain ⟨value, hvalue⟩ := exists_renderTree_iff.2 hall
    exact render_of_statesType states hvalue
  · obtain ⟨value, hvalue⟩ := exists_renderTree_iff.2 hall
    exact render_of_statesKey states hvalue
  · -- a fault of a text is no fault of the classification
    cases h : template.renderTree input with
    | error fault =>
        obtain ⟨source, message, rfl⟩ := renderTree_error h
        rw [render_of_fault h]
        simp
    | ok value =>
        rcases states with ⟨type, states⟩ | ⟨key, states⟩
        · obtain ⟨action, hrender, -⟩ := render_of_statesType states h
          rw [hrender]
          simp
        · obtain ⟨update, hrender, -⟩ := render_of_statesKey states h
          rw [hrender]
          simp

/-- A template that says its type, among fields that are up to the event. -/
def hosting : OutputTemplate :=
  .ofJson (.object
    [("customFields", .object [("note", .string "\x7b\x7b x \x7d\x7d")]),
     ("key", .string "\x7b\x7b x \x7d\x7d"),
     ("thngId", .string "t-\x7b\x7b x \x7d\x7d"),
     ("type", .string "T")])

theorem hosting_states : StatesType hosting.tree.value "T" := by
  have hleaf : Leaf.ofText "t-\x7b\x7b x \x7d\x7d" = .template "t-\x7b\x7b x \x7d\x7d" := by
    decide +kernel
  refine ⟨by decide +kernel, by decide, by decide +kernel, .inr ⟨_, rfl, ?_⟩, .inr ⟨_, rfl⟩⟩
  rintro ⟨s, source, hs, hexpression⟩
  cases hs
  rw [hleaf] at hexpression
  cases hexpression

theorem guest_is_no_property :
    StatesType hosting.tree.value "T" ∧
      ∃ action, hosting.render (.object [("type", .string "U"), ("x", .string "key")]) =
        .ok (.action action) ∧ action.type = "T" := by
  refine ⟨hosting_states, (stated_kind_stays hosting).1 "T" hosting_states _ ?_⟩
  refine exists_renderTree_iff.1 ⟨.object
    [("customFields", .object [("note", .string "key")]), ("key", .string "key"),
     ("thngId", .string "t-key"), ("type", .string "T")], ?_⟩
  decide +kernel

end OutputTemplate
end EventRules
