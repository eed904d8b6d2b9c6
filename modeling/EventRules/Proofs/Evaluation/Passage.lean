import EventRules.Proofs.Evaluation.Trial
import EventRules.Proofs.Event.Verbatim
import EventRules.Proofs.Template.Blend
import EventRules.Proofs.Template.Shape

/-!
# Passage — the data of an event in the output of a rule

The output of a rule can refer to what its event is about.  Such a reference has as its value the data
of the event as they stand, at every place of the template, whatever texts the data hold.  In a text
that holds references among other letters, the data stand in the places of the references in the same
way: a mark in them is a character like any other, and nothing that it encloses is evaluated.

* `Trial.Offers` — the references of a trial, and the data that they stand for;
* `Trial.Fills` — the references that stand in a text, with data as they are read from a text;
* `Trial.data_pass_unchanged` — that references have these data as their values, alone and in texts.
-/

namespace EventRules

open Template (Blend IsIdentifier Leaf Mention StandsFor reference)
open OutputTemplate (renderText renderValue Shows)

/-! ## What a trial offers -/

/-- A name or attribute that the output of a trial can refer to, and the data that it stands for. -/
inductive Trial.Offers : Trial → String → Option Json → Prop
  | key {rule : PropertyRule} {event : PropertyChangeEvent} {condition : PropertyCondition}
      {key : String} {change : Change} :
      rule.condition = some condition → condition.firstMatch? event.changes = some (key, change) →
      Offers (.property rule event) "key" (some (.string key))
  | value {rule : PropertyRule} {event : PropertyChangeEvent} {condition : PropertyCondition}
      {key : String} {change : Change} :
      rule.condition = some condition → condition.firstMatch? event.changes = some (key, change) →
      Offers (.property rule event) "value" (some change.newValue)
  | thng {rule : PropertyRule} {event : PropertyChangeEvent} :
      Offers (.property rule event) "thng" (some (.string event.thng))
  | field {rule : ActionRule} {subject : Action} {name : String} :
      IsIdentifier name → Offers (.action rule subject) ("action." ++ name) (subject.field? name)

/-- The data of a trial, with keys in order as in data that were read from a text. -/
structure Trial.Fills (trial : Trial) (mention : Mention) : Prop where
  offers : trial.Offers mention.source mention.data
  canonical : mention.data.map Json.canonical = mention.data

/-! ## What a context holds -/

theorem get?_propertyContext (key : String) (value : Json) (thng : String) :
    (propertyContext key value thng).get? "key" = some (.string key) ∧
    (propertyContext key value thng).get? "value" = some value ∧
    (propertyContext key value thng).get? "thng" = some (.string thng) := by
  rw [propertyContext, Json.get?_ofEntries, Json.get?_ofEntries, Json.get?_ofEntries]
  exact ⟨rfl, rfl, rfl⟩

theorem get?_actionContext (action : Action) (target : String) :
    (actionContext action target).get? "action" = some action.toJson.canonical := by
  rw [actionContext, Json.get?_ofEntries]
  rfl

namespace Trial

variable {trial : Trial} {output : OutputTemplate} {target : String} {context : Json}
  {source : String} {data : Option Json}

/-! ## One reference -/

/-- The context has the data for a reference, either as they are or in canonical form. -/
theorem standsFor_of_offers (selects : trial.Selects output target context)
    (offers : trial.Offers source data) :
    StandsFor context source data ∨ StandsFor context source (data.map Json.canonical) := by
  cases selects with
  | @action rule subject condition output target whole holds hthng hne =>
      cases offers with
      | @field rule subject name identifier =>
          -- the context holds the action as a whole in canonical form
          have stands := StandsFor.field identifier (get?_actionContext subject target)
          rw [Action.get?_toJson] at stands
          exact .inr stands
  | @property rule event condition output key change whole hfind =>
      obtain ⟨hkey, hvalue, hthng⟩ := get?_propertyContext key change.newValue event.thng
      -- only one change is the first that fits, so it is the one that the context was made of
      have hsame : ∀ {own : PropertyCondition} {found : String × Change},
          rule.condition = some own → own.firstMatch? event.changes = some found →
          found = (key, change) := by
        intro own found hown hfound
        rw [whole.hasCondition] at hown
        cases hown
        exact Option.some.inj (hfound.symm.trans hfind)
      cases offers with
      | key hcondition hfirst =>
          cases hsame hcondition hfirst
          exact .inl (.name (by decide) hkey)
      | value hcondition hfirst =>
          cases hsame hcondition hfirst
          exact .inl (.name (by decide) hvalue)
      | thng =>
          exact .inl (.name (by decide) hthng)

/-- A reference has the data that it stands for as its value. -/
theorem renderText_of_offers (selects : trial.Selects output target context)
    (offers : trial.Offers source data) :
    renderText (.ofJson context) (reference source) = .ok (data.map Json.canonical) := by
  rcases standsFor_of_offers selects offers with stands | stands
  · exact OutputTemplate.renderText_of_standsFor stands
  · have htwice : (data.map Json.canonical).map Json.canonical = data.map Json.canonical := by
      rw [Option.map_map]
      exact Option.map_congr fun value _ => Json.canonical_idem value
    rw [OutputTemplate.renderText_of_standsFor stands, htwice]

/-- A text around references comes to that text with the data in their places. -/
theorem renderText_of_fills (selects : trial.Selects output target context) {blend : Blend}
    (inert : blend.Inert) (fills : ∀ mention ∈ blend.mentions, trial.Fills mention)
    (mixed : Leaf.wholeExpression? blend.source = none) :
    renderText (.ofJson context) blend.source = .ok (some (.string blend.shown)) := by
  refine OutputTemplate.renderText_blend inert (fun mention hmem => ?_) mixed
  obtain ⟨offers, hcanonical⟩ := fills mention hmem
  rcases standsFor_of_offers selects offers with stands | stands
  · exact stands
  · rwa [hcanonical] at stands

/-- What an event holds is in canonical form already. -/
theorem canonical_of_holds {table : Table} {event : HostEvent} {content : Json}
    (holds : event.Holds content) (htrial : trial ∈ table.trials event)
    (selects : trial.Selects output target context) (offers : trial.Offers source data)
    {found : Json} (hfound : data = some found) : found.Canonical := by
  cases event with
  | actionCreated event =>
      obtain ⟨rule, -, rfl⟩ := List.mem_map.1 htrial
      obtain ⟨record, -, hfields⟩ := holds
      cases selects with
      | action _ _ hthng _ =>
          cases offers with
          | @field _ _ name _ =>
              have hsome : name = "thng" → event.action.thng ≠ none := by
                intro _
                rw [hthng]
                exact Option.some_ne_none target
              rw [hfields name hsome] at hfound
              have hpart : Json.part? (.name name) record.canonical = some found := hfound
              exact Json.canonical_part (Json.canonical_canonical record) hpart
  | thngPropertiesChanged event =>
      obtain ⟨rule, -, rfl⟩ := List.mem_map.1 htrial
      obtain ⟨members, -, hchanges⟩ := holds
      cases offers with
      | key _ _ =>
          cases hfound
          trivial
      | @value _ _ _ key change _ hfirst =>
          obtain ⟨sent, -, hvalue⟩ := hchanges key change (List.mem_of_find?_eq_some hfirst)
          cases hfound
          rw [hvalue]
          cases sent.sent? "newValue" 0 with
          | none =>
              trivial
          | some value =>
              exact Json.canonical_canonical value
      | thng =>
          cases hfound
          trivial

theorem map_canonical_of_holds {table : Table} {event : HostEvent} {content : Json}
    (holds : event.Holds content) (htrial : trial ∈ table.trials event)
    (selects : trial.Selects output target context) (offers : trial.Offers source data) :
    data.map Json.canonical = data := by
  cases hdata : data with
  | none =>
      rfl
  | some found =>
      have hcanonical := canonical_of_holds holds htrial selects offers hdata
      exact congrArg some (Json.canonical_of_canonical hcanonical)

/-! ## All references -/

/-- The data of an event pass through a template as they are, and no text among them is read as one. -/
theorem data_pass_unchanged (selects : trial.Selects output target context)
    (offers : trial.Offers source data) :
    -- a reference has the data that it stands for as its value
    renderText (.ofJson context) (reference source) = .ok (data.map Json.canonical) ∧
    -- and they are found wherever it stands in the template
    (∀ rendered place, output.renderTree context = .ok rendered →
      output.tree.value.at? place = some (.string (reference source)) →
      Shows rendered place (data.map Json.canonical)) ∧
    -- a text around references is that text with the data in their places, whatever marks these hold
    (∀ blend : Blend, blend.Inert → (∀ mention ∈ blend.mentions, trial.Fills mention) →
      Leaf.wholeExpression? blend.source = none →
      renderText (.ofJson context) blend.source = .ok (some (.string blend.shown)) ∧
      ∀ rendered place, output.renderTree context = .ok rendered →
        output.tree.value.at? place = some (.string blend.source) →
        Shows rendered place (some (.string blend.shown))) ∧
    -- of an event that stands in a text these are the very data that stand there
    (∀ text event (table : Table), HostEvent.ofText text = .ok event →
      trial ∈ table.trials event →
      data.map Json.canonical = data ∧
      ∃ kind content, Json.decode HostEvent.wireContent text = .ok (kind, content) ∧
        event.Holds content) := by
  have hvalue := renderText_of_offers selects offers
  refine ⟨hvalue, fun rendered place hrendered hplace => ?_,
    fun blend inert fills mixed => ?_, fun text event table hevent htrial => ?_⟩
  · have hleaf : renderValue (.ofJson context) (.string (reference source)) =
        .ok (data.map Json.canonical) := hvalue
    exact OutputTemplate.shows_of_renderTree hrendered hplace hleaf
  · have hblend := renderText_of_fills selects inert fills mixed
    refine ⟨hblend, fun rendered place hrendered hplace => ?_⟩
    have hleaf : renderValue (.ofJson context) (.string blend.source) =
        .ok (some (.string blend.shown)) := hblend
    exact OutputTemplate.shows_of_renderTree hrendered hplace hleaf
  · obtain ⟨kind, content, hcontent, holds⟩ := HostEvent.holds_of_ofText hevent
    exact ⟨map_canonical_of_holds holds htrial selects offers, kind, content, hcontent, holds⟩

end Trial

/-! ## Data that look like templates -/

namespace Lookalike

/-- The entity that is sent looks like a template, as does a text in the value, which also holds a null
and a number for which a signed word has no room. -/
def text : String :=
  "\x7b\"event\":\"thngPropertiesChanged\",\"thng\":\x7b\"id\":\"\x7b\x7b key \x7d\x7d\"\x7d," ++
    "\"changes\":\x7b\"state\":\x7b\"newValue\":\x7b\"note\":\"\x7b\x7b key \x7d\x7d\"," ++
    "\"gone\":null,\"big\":18446744073709551615\x7d\x7d\x7d\x7d"

def value : Json :=
  .object [("big", .ofNat 18446744073709551615), ("gone", .null),
    ("note", .string (reference "key"))]

def event : PropertyChangeEvent := ⟨reference "key", .ofAssignments [("state", .ofNew value)]⟩

def condition : PropertyCondition := ⟨"state", .neq, .null⟩

/-- A text that refers to the key and to the entity. -/
def caption : Blend :=
  ⟨"copy of ", [⟨"key", some (.string "state"), " at "⟩,
    ⟨"thng", some (.string (reference "key")), ""⟩]⟩

def output : OutputTemplate :=
  .ofJson (.object [("key", .string caption.source), ("value", .string (reference "value"))])

def rule : PropertyRule := .of "copy" condition output

theorem inert_caption : caption.Inert where
  lead := by decide +kernel
  behind := by decide +kernel
  last := by
    have hlast : caption.source.toList.getLast?.all (fun c => c ≠ '\n' && c ≠ '\r') = true := by
      decide +kernel
    simpa [Option.all_eq_true] using hlast

end Lookalike

open Lookalike in
/-- No text in the data is rendered, and the null in them is not left out. -/
theorem Lookalike.value_passes :
    HostEvent.ofText text = .ok (.thngPropertiesChanged event) ∧
    (∀ rendered, output.renderTree (propertyContext "state" value event.thng) = .ok rendered →
      rendered.at? [.name "key"] = some (.string ("copy of state at " ++ reference "key")) ∧
      rendered.at? [.name "value"] = some value) ∧
    rule.prepare event = .ok (some ⟨reference "key",
      .property ⟨"copy of state at " ++ reference "key", value⟩⟩) := by
  have hdecode : HostEvent.ofText text = .ok (.thngPropertiesChanged event) := by
    decide +kernel
  have hcheck : output.check = .ok () := by
    decide +kernel
  have whole : rule.IsWhole condition output := ⟨rfl, rfl, hcheck⟩
  have hfirst : condition.firstMatch? event.changes = some ("state", .ofNew value) := by
    decide +kernel
  have selects : (Trial.property rule event).Selects output event.thng
      (propertyContext "state" value event.thng) := .property whole hfirst
  have offers : (Trial.property rule event).Offers "value" (some value) := .value rfl hfirst
  have fills : ∀ mention ∈ caption.mentions, (Trial.property rule event).Fills mention := by
    intro mention hmem
    simp only [caption, List.mem_cons, List.not_mem_nil, or_false] at hmem
    rcases hmem with rfl | rfl
    · exact ⟨.key rfl hfirst, rfl⟩
    · exact ⟨.thng, rfl⟩
  obtain ⟨-, hplaces, hblends, hsent⟩ := Trial.data_pass_unchanged selects offers
  obtain ⟨hexact, -⟩ := hsent text _ ⟨[], [rule]⟩ hdecode (List.mem_singleton_self _)
  obtain ⟨-, hcaptions⟩ := hblends caption inert_caption fills (by decide)
  rw [hexact] at hplaces
  refine ⟨hdecode, fun rendered hrendered => ⟨?_, ?_⟩, by decide +kernel⟩
  · exact hcaptions rendered [.name "key"] hrendered rfl
  · exact hplaces rendered [.name "value"] hrendered rfl

end EventRules
