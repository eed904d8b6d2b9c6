import EventRules.Proofs.Template.Output

/-!
# Texts — the texts of an output template, one after the other

Checking and rendering go through the same texts in the same order, depth first with the entries of an
object in their order, and stop at the first one that is at fault.

* `Json.texts` — these texts;
* `OutputTemplate.faultOf_checkValue`, `OutputTemplate.faultOf_renderValue` — the first fault among them;
* `OutputTemplate.FailsInEvaluation` — a text that is right in its notation, but has no value.
-/

namespace EventRules

/-! ## The texts of a value -/

namespace Json

mutual

/-- The texts of a value, in the order in which they are rendered. -/
def texts : Json → List String
  | .string s => [s]
  | .array items => textsOfItems items
  | .object entries => textsOfEntries entries
  | _ => []

def textsOfItems : List Json → List String
  | [] => []
  | item :: rest => item.texts ++ textsOfItems rest

def textsOfEntries : List (String × Json) → List String
  | [] => []
  | (_, value) :: rest => value.texts ++ textsOfEntries rest

end

end Json

namespace OutputTemplate

open Template (Leaf Value)

/-! ## Checking -/

mutual

/-- Checking finds the first text that is not right in its notation. -/
theorem faultOf_checkValue : ∀ value : Json,
    faultOf (checkValue value) = value.texts.findSome? fun s => faultOf (checkText s)
  | .string s => by
      simp [checkValue, Json.texts]
  | .array items => faultOf_checkItems items
  | .object entries => faultOf_checkEntries entries
  | .null => rfl
  | .bool _ => rfl
  | .number _ => rfl

theorem faultOf_checkItems : ∀ items : List Json,
    faultOf (checkItems items) =
      (Json.textsOfItems items).findSome? fun s => faultOf (checkText s)
  | [] => rfl
  | item :: rest => by
      rw [checkItems, faultOf_bind fun _ => faultOf_checkItems rest, faultOf_checkValue item,
        Json.textsOfItems, List.findSome?_append]

theorem faultOf_checkEntries : ∀ entries : List (String × Json),
    faultOf (checkEntries entries) =
      (Json.textsOfEntries entries).findSome? fun s => faultOf (checkText s)
  | [] => rfl
  | (name, value) :: rest => by
      rw [checkEntries, faultOf_bind fun _ => faultOf_checkEntries rest, faultOf_checkValue value,
        Json.textsOfEntries, List.findSome?_append]

end

/-! ## Rendering -/

mutual

/-- Rendering stops at the first text that has no value because of a fault. -/
theorem faultOf_renderValue (context : Value) : ∀ value : Json,
    faultOf (renderValue context value) =
      value.texts.findSome? fun s => faultOf (renderText context s)
  | .string s => by
      simp [renderValue, Json.texts]
  | .array items => by
      rw [renderValue, faultOf_bind_pure, faultOf_renderItems context items, Json.texts]
  | .object entries => by
      rw [renderValue, faultOf_bind_pure, faultOf_renderEntries context entries, Json.texts]
  | .null => rfl
  | .bool _ => rfl
  | .number _ => rfl

theorem faultOf_renderItems (context : Value) : ∀ items : List Json,
    faultOf (renderItems context items) =
      (Json.textsOfItems items).findSome? fun s => faultOf (renderText context s)
  | [] => rfl
  | item :: rest => by
      have hrest : ∀ value : Option Json,
          faultOf (do return value.getD .null :: (← renderItems context rest)) =
            (Json.textsOfItems rest).findSome? fun s => faultOf (renderText context s) := by
        intro value
        rw [faultOf_bind_pure, faultOf_renderItems context rest]
      rw [renderItems, faultOf_bind hrest, faultOf_renderValue context item, Json.textsOfItems,
        List.findSome?_append]

theorem faultOf_renderEntries (context : Value) : ∀ entries : List (String × Json),
    faultOf (renderEntries context entries) =
      (Json.textsOfEntries entries).findSome? fun s => faultOf (renderText context s)
  | [] => rfl
  | (name, value) :: rest => by
      rw [renderEntries, Json.textsOfEntries, List.findSome?_append,
        ← faultOf_renderValue context value, ← faultOf_renderEntries context rest]
      refine faultOf_bind fun rendered => ?_
      -- an entry without a value is left out, and that is no fault
      cases rendered with
      | none =>
          cases renderEntries context rest <;> rfl
      | some value =>
          cases renderEntries context rest <;> rfl

end

theorem faultOf_renderTree (template : OutputTemplate) (context : Json) :
    faultOf (template.renderTree context) =
      template.tree.value.texts.findSome? fun s => faultOf (renderText (.ofJson context) s) := by
  rw [renderTree, faultOf_bind_pure, faultOf_renderValue]

/-! ## One text -/

/-- A text is right in its notation, but is at fault when it is evaluated or its value is taken. -/
def FailsInEvaluation (context : Value) (source : String) (fault : OutputFault) : Prop :=
  ∃ compiled cause, (Leaf.ofText source).compile = .ok compiled ∧
    compiled.eval context = .error cause ∧
    fault = .unrendered source (cause.message (Leaf.ofText source).place)

theorem checkText_eq_ok_iff {s : String} :
    checkText s = .ok () ↔ ∃ compiled, (Leaf.ofText s).compile = .ok compiled := by
  cases hcompile : (Leaf.ofText s).compile <;> simp [checkText, hcompile]

/-- A text that is not right in its notation fails in every context. -/
theorem renderText_of_checkText {s : String} {fault : OutputFault}
    (h : checkText s = .error fault) (context : Value) :
    ∃ message, renderText context s = .error (.unrendered s message) := by
  cases hcompile : (Leaf.ofText s).compile with
  | error cause =>
      exact ⟨_, by simp [renderText, hcompile, bind, Except.bind]; rfl⟩
  | ok compiled =>
      rw [checkText_eq_ok_iff.2 ⟨compiled, hcompile⟩] at h
      cases h

/-- Any other text only fails in its evaluation. -/
theorem failsInEvaluation_of_checkText {s : String} (h : checkText s = .ok ()) {context : Value}
    {fault : OutputFault} (hfault : renderText context s = .error fault) :
    FailsInEvaluation context s fault := by
  obtain ⟨compiled, hcompile⟩ := checkText_eq_ok_iff.1 h
  cases heval : compiled.eval context with
  | ok value =>
      simp [renderText, hcompile, heval, bind, Except.bind] at hfault
  | error cause =>
      refine ⟨compiled, cause, hcompile, heval, ?_⟩
      simpa [renderText, hcompile, heval, bind, Except.bind] using hfault.symm

/-! ## All texts -/

/-- A template is right in its notation if all of its texts are. -/
theorem check_eq_ok_iff {template : OutputTemplate} :
    template.check = .ok () ↔ ∀ s ∈ template.tree.value.texts, checkText s = .ok () := by
  have hnone : template.check = .ok () ↔ faultOf template.check = none := by
    cases template.check <;> simp [faultOf]
  rw [hnone, check, faultOf_checkValue, List.findSome?_eq_none_iff]
  refine forall₂_congr fun s _ => ?_
  rw [faultOf_eq_none_iff]
  constructor
  · rintro ⟨_, h⟩
    exact h
  · intro h
    exact ⟨(), h⟩

/-- A template that is not right in its notation has no value in any context. -/
theorem renderTree_of_check {template : OutputTemplate} {fault : OutputFault}
    (h : template.check = .error fault) (context : Json) :
    ∃ source message, template.renderTree context = .error (.unrendered source message) := by
  have hfirst := faultOf_eq_some_iff.2 h
  rw [check, faultOf_checkValue] at hfirst
  obtain ⟨s, hs, hown⟩ := List.exists_of_findSome?_eq_some hfirst
  obtain ⟨message, hrender⟩ :=
    renderText_of_checkText (faultOf_eq_some_iff.1 hown) (.ofJson context)
  -- this text fails, so the first text that fails is this one or one before it
  have hsome : (faultOf (template.renderTree context)).isSome := by
    rw [faultOf_renderTree, List.findSome?_isSome_iff]
    exact ⟨s, hs, by rw [faultOf_eq_some_iff.2 hrender]; rfl⟩
  obtain ⟨found, hfound⟩ := Option.isSome_iff_exists.1 hsome
  have herror := faultOf_eq_some_iff.1 hfound
  obtain ⟨source, text, rfl⟩ := renderTree_error herror
  exact ⟨source, text, herror⟩

/-- A template that is right in its notation only fails where one of its texts is evaluated. -/
theorem failsInEvaluation_of_check {template : OutputTemplate} (h : template.check = .ok ())
    {context : Json} {fault : OutputFault} (hfault : template.renderTree context = .error fault) :
    ∃ source ∈ template.tree.value.texts, FailsInEvaluation (.ofJson context) source fault := by
  have hfirst := faultOf_eq_some_iff.2 hfault
  rw [faultOf_renderTree] at hfirst
  obtain ⟨s, hs, hown⟩ := List.exists_of_findSome?_eq_some hfirst
  exact ⟨s, hs, failsInEvaluation_of_checkText (check_eq_ok_iff.1 h s hs)
    (faultOf_eq_some_iff.1 hown)⟩

end OutputTemplate
end EventRules
