import EventRules.Proofs.Template.Mirror
import EventRules.Proofs.Template.Precedence

/-!
# Rendering — when a template has a value, and which one

Rendering fails with the first text that does.  If none does, its value is the one that looks like the
template, and whether that is a payload is found out from the value alone.

* `OutputTemplate.renderTree_fails_iff` — when rendering fails;
* `OutputTemplate.renderTree_eq_ok_iff` — what it gives otherwise;
* `OutputTemplate.renderTree_of_unmarked` — templates without marks, which are their own value;
* `OutputTemplate.render_is_structural` — all of it.
-/

namespace EventRules
namespace OutputTemplate

open Template

variable {context : Value}

/-! ## Faults and values -/

/-- Rendering gives a value if none of the texts fails. -/
theorem exists_renderTree_iff {template : OutputTemplate} {input : Json} :
    (∃ value, template.renderTree input = .ok value) ↔
      ∀ place s, template.tree.value.at? place = some (.string s) →
        ∃ data, renderText (.ofJson input) s = .ok data := by
  constructor
  · rintro ⟨value, h⟩ place s hpart
    obtain ⟨data, hdata, -⟩ := at?_of_renderTree h hpart
    exact ⟨data, hdata⟩
  · intro hall
    cases h : template.renderTree input with
    | ok value =>
        exact ⟨value, rfl⟩
    | error fault =>
        obtain ⟨place, s, failing⟩ := renderTree_eq_error_iff.1 h
        obtain ⟨data, hdata⟩ := hall place s failing.stands
        rw [failing.fails] at hdata
        cases hdata

/-- Rendering fails if any text does. -/
theorem renderTree_fails_iff {template : OutputTemplate} {input : Json} :
    (∃ fault, template.renderTree input = .error fault) ↔
      ∃ place s fault, template.tree.value.at? place = some (.string s) ∧
        renderText (.ofJson input) s = .error fault := by
  constructor
  · rintro ⟨fault, h⟩
    obtain ⟨place, s, failing⟩ := renderTree_eq_error_iff.1 h
    exact ⟨place, s, fault, failing.stands, failing.fails⟩
  · rintro ⟨place, s, fault, hpart, hfails⟩
    cases h : template.renderTree input with
    | error found =>
        exact ⟨found, rfl⟩
    | ok value =>
        obtain ⟨data, hdata⟩ := exists_renderTree_iff.1 ⟨value, h⟩ place s hpart
        rw [hfails] at hdata
        cases hdata

/-- What a template is rendered to is the one value that looks like it. -/
theorem renderTree_eq_ok_iff {template : OutputTemplate} {input value : Json} :
    template.renderTree input = .ok value ↔ Mirrors (.ofJson input) template.tree.value value := by
  refine ⟨mirrors_of_renderTree, fun mirrors => ?_⟩
  obtain ⟨found, hfound⟩ := exists_renderTree_iff.2 fun _ _ hpart => mirrors.renders hpart
  rw [hfound, (mirrors_of_renderTree hfound).unique template.tree.canonical mirrors]

theorem render_of_fault {template : OutputTemplate} {input : Json} {fault : OutputFault}
    (h : template.renderTree input = .error fault) : template.render input = .error fault := by
  rw [render_eq, h]

/-- What has been rendered is classified. -/
theorem render_of_value {template : OutputTemplate} {input value : Json}
    (h : template.renderTree input = .ok value) :
    template.render input = (Payload.classify value).mapError .unclassifiable := by
  rw [render_eq, h]
  cases hclass : Payload.classify value <;> simp only [hclass, Except.mapError]

/-! ## Templates without marks -/

mutual

/-- A value without marks is rendered to itself. -/
theorem renderValue_of_unmarked : ∀ {value : Json},
    (∀ s ∈ value.texts, Leaf.hasMarks s = false) → renderValue context value = .ok (some value)
  | .string _, h => renderText_of_unmarked (h _ List.mem_cons_self)
  | .array items, h => by
      rw [renderValue, renderItems_of_unmarked h]
      rfl
  | .object entries, h => by
      rw [renderValue, renderEntries_of_unmarked h]
      rfl
  | .null, _ => rfl
  | .bool _, _ => rfl
  | .number _, _ => rfl

theorem renderItems_of_unmarked : ∀ {items : List Json},
    (∀ s ∈ Json.textsOfItems items, Leaf.hasMarks s = false) →
      renderItems context items = .ok items
  | [], _ => rfl
  | item :: rest, h => by
      obtain ⟨hfirst, hrest⟩ := List.forall_mem_append.1 h
      rw [renderItems, renderValue_of_unmarked hfirst, renderItems_of_unmarked hrest]
      rfl

theorem renderEntries_of_unmarked : ∀ {entries : List (String × Json)},
    (∀ s ∈ Json.textsOfEntries entries, Leaf.hasMarks s = false) →
      renderEntries context entries = .ok entries
  | [], _ => rfl
  | (name, value) :: rest, h => by
      obtain ⟨hfirst, hrest⟩ := List.forall_mem_append.1 h
      rw [renderEntries, renderValue_of_unmarked hfirst, renderEntries_of_unmarked hrest]
      rfl

end

theorem check_of_unmarked {template : OutputTemplate}
    (h : ∀ s ∈ template.tree.value.texts, Leaf.hasMarks s = false) : template.check = .ok () := by
  refine check_eq_ok_iff.2 fun s hs => checkText_eq_ok_iff.2 ⟨.plain s, ?_⟩
  rw [ofText_of_unmarked (h s hs)]
  rfl

theorem renderTree_of_unmarked {template : OutputTemplate}
    (h : ∀ s ∈ template.tree.value.texts, Leaf.hasMarks s = false) (input : Json) :
    template.renderTree input = .ok template.tree.value := by
  rw [renderTree, renderValue_of_unmarked h]
  rfl

/-! ## All of it -/

/-- Rendering fails with the first text that does, and gives the value that looks like the template if
none does.  A template without marks is its own value. -/
theorem render_is_structural (template : OutputTemplate) :
    (∀ input : Json,
      ((∃ fault, template.renderTree input = .error fault) ↔
        ∃ place s fault, template.tree.value.at? place = some (.string s) ∧
          renderText (.ofJson input) s = .error fault) ∧
      (∀ fault, template.renderTree input = .error fault ↔
        ∃ place s, FailsFirstAt (.ofJson input) template.tree.value place s fault) ∧
      (∀ fault, template.renderTree input = .error fault →
        template.render input = .error fault) ∧
      (∀ value, template.renderTree input = .ok value ↔
        Mirrors (.ofJson input) template.tree.value value) ∧
      ∀ value, template.renderTree input = .ok value →
        template.render input = (Payload.classify value).mapError .unclassifiable) ∧
    ((∀ place s, template.tree.value.at? place = some (.string s) → Leaf.hasMarks s = false) →
      template.check = .ok () ∧ ∀ input : Json,
        template.render input = (Payload.classify template.tree.value).mapError .unclassifiable) := by
  constructor
  · intro input
    exact ⟨renderTree_fails_iff, fun fault => renderTree_eq_error_iff,
      fun fault => render_of_fault, fun value => renderTree_eq_ok_iff, fun value => render_of_value⟩
  · intro unmarked
    -- where names stand once, the texts are those that stand at places
    have htexts : ∀ s ∈ template.tree.value.texts, Leaf.hasMarks s = false := by
      intro s hs
      rw [← Json.map_snd_textsAt] at hs
      obtain ⟨⟨place, own⟩, hmem, rfl⟩ := List.mem_map.1 hs
      exact unmarked place own ((Json.mem_textsAt_iff template.tree.canonical).1 hmem)
    refine ⟨check_of_unmarked htexts, fun input => ?_⟩
    exact render_of_value (renderTree_of_unmarked htexts input)

/-- A template that names what is missing in an entry, in an item and inside of a text. -/
def gappy : OutputTemplate :=
  .ofJson (.object
    [("gone", .string "\x7b\x7b x \x7d\x7d"),
     ("items", .array [.string "\x7b\x7b x \x7d\x7d", .string "a\x7b\x7b x \x7d\x7d"]),
     ("type", .string "T")])

theorem gappy_is_mirrored :
    Mirrors (.ofJson (.object [])) gappy.tree.value
        (.object [("items", .array [.null, .string "a"]), ("type", .string "T")]) ∧
      gappy.render (.object []) =
        .ok (.action ⟨"T", none, none, [("items", .array [.null, .string "a"])]⟩) := by
  have hvalue : gappy.renderTree (.object []) =
      .ok (.object [("items", .array [.null, .string "a"]), ("type", .string "T")]) := by
    decide +kernel
  obtain ⟨-, -, -, hmirrors, hrender⟩ := (render_is_structural gappy).1 (.object [])
  refine ⟨(hmirrors _).1 hvalue, (hrender _ hvalue).trans ?_⟩
  decide +kernel

end OutputTemplate
end EventRules
