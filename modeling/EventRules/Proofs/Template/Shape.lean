import EventRules.Proofs.Json.Place
import EventRules.Proofs.Template.Output

/-!
# Shape — where the parts of a template are found again

Rendering keeps the shape of a template: what was rendered from a part of the template stands where
the part stood.  A text without a value leaves its entry of an object out, and leaves null elsewhere.

* `OutputTemplate.Shows` — what is found at the place of a part, once its value is known;
* `OutputTemplate.shows_of_renderTree` — that it is found there.
-/

namespace EventRules
namespace OutputTemplate

open Json (Step part? at?)
open Template (Value)

variable {context : Value}

/-! ## One level -/

theorem renderItems_get {items values : List Json} (h : renderItems context items = .ok values)
    {index : Nat} {item : Json} (hitem : items[index]? = some item) :
    ∃ data, renderValue context item = .ok data ∧ values[index]? = some (data.getD .null) := by
  induction items generalizing values index with
  | nil =>
      cases hitem
  | cons first rest ih =>
      obtain ⟨data, hfirst, hothers⟩ := ok_of_bind h
      obtain ⟨others, hrest, hvalues⟩ := ok_of_bind hothers
      cases hvalues
      cases index with
      | zero =>
          cases hitem
          exact ⟨data, hfirst, rfl⟩
      | succ index =>
          exact ih hrest hitem

/-- An entry is rendered to an entry of the same name, or left out. -/
theorem renderEntries_cons {name : String} {value : Json} {rest fields : List (String × Json)}
    (h : renderEntries context ((name, value) :: rest) = .ok fields) :
    ∃ data others, renderValue context value = .ok data ∧ renderEntries context rest = .ok others ∧
      fields = (data.map (name, ·)).toList ++ others := by
  obtain ⟨data, hvalue, hothers⟩ := ok_of_bind h
  obtain ⟨others, hrest, hfields⟩ := ok_of_bind hothers
  refine ⟨data, others, hvalue, hrest, ?_⟩
  cases data with
  | none =>
      cases hfields
      rfl
  | some found =>
      cases hfields
      rfl

/-- Rendering makes up no names. -/
theorem mem_of_mem_renderEntries {entries fields : List (String × Json)}
    (h : renderEntries context entries = .ok fields) {name : String} {found : Json}
    (hfound : (name, found) ∈ fields) :
    ∃ value, (name, value) ∈ entries ∧ renderValue context value = .ok (some found) := by
  induction entries generalizing fields with
  | nil =>
      cases h
      cases hfound
  | cons first rest ih =>
      rcases first with ⟨own, value⟩
      obtain ⟨data, others, hvalue, hrest, rfl⟩ := renderEntries_cons h
      rcases List.mem_append.1 hfound with hhere | hthere
      · cases data with
        | none =>
            cases hhere
        | some rendered =>
            cases List.mem_singleton.1 hhere
            exact ⟨value, List.mem_cons_self, hvalue⟩
      · obtain ⟨source, hsource, hown⟩ := ih hrest hthere
        exact ⟨source, List.mem_cons_of_mem _ hsource, hown⟩

theorem renderEntries_lookup {entries fields : List (String × Json)}
    (h : renderEntries context entries = .ok fields) {name : String} {value : Json}
    (hvalue : entries.lookup name = some value) :
    ∃ data, renderValue context value = .ok data ∧
      ∀ found, data = some found → fields.lookup name = some found := by
  induction entries generalizing fields with
  | nil =>
      cases hvalue
  | cons first rest ih =>
      rcases first with ⟨own, source⟩
      obtain ⟨data, others, hsource, hrest, rfl⟩ := renderEntries_cons h
      rw [lookup_cons_ite] at hvalue
      by_cases hname : name = own
      · rw [if_pos hname] at hvalue
        cases hvalue
        refine ⟨data, hsource, fun found hfound => ?_⟩
        rw [hfound]
        exact (lookup_cons_ite own found others name).trans (if_pos hname)
      · rw [if_neg hname] at hvalue
        obtain ⟨own', hown, hlookup⟩ := ih hrest hvalue
        refine ⟨own', hown, fun found hfound => ?_⟩
        cases data with
        | none =>
            exact hlookup found hfound
        | some rendered =>
            have hskip : ((own, rendered) :: others).lookup name = others.lookup name := by
              rw [lookup_cons_ite, if_neg hname]
            exact hskip.trans (hlookup found hfound)

/-- A part of a template is rendered to the part at the same step, if it has a value. -/
theorem renderValue_part {value : Json} {step : Step} {part : Json} {whole : Option Json}
    (h : renderValue context value = .ok whole) (hpart : part? step value = some part) :
    ∃ data rendered, renderValue context part = .ok data ∧ whole = some rendered ∧
      ∀ found, data = some found → part? step rendered = some found := by
  cases value with
  | object entries =>
      obtain ⟨fields, hfields, hwhole⟩ := ok_of_bind h
      cases hwhole
      cases step with
      | name name =>
          obtain ⟨data, hdata, hlookup⟩ := renderEntries_lookup hfields hpart
          exact ⟨data, .object fields, hdata, rfl, hlookup⟩
      | index index =>
          cases hpart
  | array items =>
      obtain ⟨values, hvalues, hwhole⟩ := ok_of_bind h
      cases hwhole
      cases step with
      | name name =>
          cases hpart
      | index index =>
          obtain ⟨data, hdata, hget⟩ := renderItems_get hvalues hpart
          refine ⟨data, .array values, hdata, rfl, ?_⟩
          rintro found rfl
          exact hget
  | _ =>
      cases step <;> cases hpart

/-! ## All levels -/

/-- A part of a template is rendered to the part at its place, if it has a value. -/
theorem renderValue_at {place : List Step} {value part : Json} {whole : Option Json}
    (h : renderValue context value = .ok whole) (hpart : value.at? place = some part) :
    ∃ data, renderValue context part = .ok data ∧
      ∀ found, data = some found → ∃ rendered, whole = some rendered ∧
        rendered.at? place = some found := by
  induction place generalizing value whole with
  | nil =>
      cases hpart
      exact ⟨whole, h, fun found hfound => ⟨found, hfound, rfl⟩⟩
  | cons step rest ih =>
      obtain ⟨next, hnext, hrest⟩ := Option.bind_eq_some_iff.1 hpart
      obtain ⟨middle, rendered, hmiddle, hwhole, hstep⟩ := renderValue_part h hnext
      obtain ⟨data, hdata, hat⟩ := ih hmiddle hrest
      refine ⟨data, hdata, fun found hfound => ⟨rendered, hwhole, ?_⟩⟩
      obtain ⟨inner, hinner, hplace⟩ := hat found hfound
      rw [at?, hstep inner hinner]
      exact hplace

/-- What is found at the place of a part that has been rendered: its value, or, if it has none, a gap
in its object, and null anywhere else. -/
def Shows (rendered : Json) (place : List Step) : Option Json → Prop
  | some found => rendered.at? place = some found
  | none =>
      match place.getLast? with
      | some (.name name) =>
          ∃ fields, rendered.at? place.dropLast = some (.object fields) ∧
            ∀ value, (name, value) ∉ fields
      | _ => rendered.at? place = some .null

/-- A part without a value leaves a gap in its object, since the object names it only once. -/
theorem gap_of_renderEntries {entries fields : List (String × Json)}
    (sorted : Fields.Sorted entries) (h : renderEntries context entries = .ok fields)
    {name : String} {part : Json} (hpart : entries.lookup name = some part)
    (hnone : renderValue context part = .ok none) : ∀ value, (name, value) ∉ fields := by
  intro value hmem
  obtain ⟨source, hsource, hown⟩ := mem_of_mem_renderEntries h hmem
  have hsame : some source = some part := by
    rw [← hpart]
    exact ((mem_iff_lookup (Fields.nodup_of_sorted sorted)).1 hsource).symm
  cases hsame
  rw [hnone] at hown
  cases hown

/-- A part without a value is a gap in the object around it, and null in the list around it. -/
theorem shows_none_of_renderValue {front : List Step} {step : Step} {value part : Json}
    {whole : Option Json} (canonical : value.Canonical)
    (h : renderValue context value = .ok whole) (hpart : value.at? (front ++ [step]) = some part)
    (hnone : renderValue context part = .ok none) :
    ∃ rendered, whole = some rendered ∧ Shows rendered (front ++ [step]) none := by
  rw [Json.at?_concat] at hpart
  obtain ⟨parent, hparent, hstep⟩ := Option.bind_eq_some_iff.1 hpart
  obtain ⟨data, hdata, hat⟩ := renderValue_at h hparent
  have hcanonical := Json.canonical_at canonical hparent
  simp only [Shows, List.getLast?_concat, List.dropLast_concat]
  -- only objects and lists have parts, and they never lose their own value
  cases parent with
  | object entries =>
      obtain ⟨fields, hfields, hvalue⟩ := ok_of_bind hdata
      cases hvalue
      obtain ⟨rendered, hwhole, hplace⟩ := hat (.object fields) rfl
      cases step with
      | name name =>
          exact ⟨rendered, hwhole, fields, hplace,
            gap_of_renderEntries hcanonical.1 hfields hstep hnone⟩
      | index index =>
          cases hstep
  | array items =>
      obtain ⟨values, hvalues, hvalue⟩ := ok_of_bind hdata
      cases hvalue
      obtain ⟨rendered, hwhole, hplace⟩ := hat (.array values) rfl
      cases step with
      | name name =>
          cases hstep
      | index index =>
          obtain ⟨own, hown, hget⟩ := renderItems_get hvalues hstep
          rw [hnone] at hown
          cases hown
          have hnull : rendered.at? (front ++ [.index index]) = some .null := by
            rw [Json.at?_concat, hplace]
            exact hget
          exact ⟨rendered, hwhole, hnull⟩
  | _ =>
      cases step <;> cases hstep

/-- What a part is rendered to stands at its place. -/
theorem shows_of_renderTree {template : OutputTemplate} {input rendered : Json}
    (h : template.renderTree input = .ok rendered) {place : List Step} {part : Json}
    (hpart : template.tree.value.at? place = some part) {data : Option Json}
    (hdata : renderValue (.ofJson input) part = .ok data) : Shows rendered place data := by
  obtain ⟨whole, hwhole, hrendered⟩ := ok_of_bind h
  cases hrendered
  obtain ⟨own, hown, hat⟩ := renderValue_at hwhole hpart
  rw [hdata] at hown
  cases hown
  cases data with
  | some found =>
      obtain ⟨inner, rfl, hplace⟩ := hat found rfl
      exact hplace
  | none =>
      rcases List.eq_nil_or_concat place with rfl | ⟨front, step, rfl⟩
      · cases hpart
        rw [hdata] at hwhole
        cases hwhole
        rfl
      · rw [List.concat_eq_append] at hpart ⊢
        obtain ⟨inner, rfl, hshows⟩ :=
          shows_none_of_renderValue template.tree.canonical hwhole hpart hdata
        exact hshows

end OutputTemplate
end EventRules
