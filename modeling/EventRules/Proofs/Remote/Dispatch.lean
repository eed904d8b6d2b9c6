import EventRules.Proofs.Evaluation.Isolation
import EventRules.Proofs.Payload.Shape
import EventRules.Remote.Dispatch
import EventRules.Remote.DryRun

/-!
# Dispatch — a value of either shape leads to one call

A value is classified before it is sent.  One that is a payload leads to a single call of the operation
that belongs to its shape, whatever comes of the call, and any other value leads to none.

* `Api.recorded` — a service that keeps a list of the calls made to it;
* `Api.Makes` — the calls that sending a value makes, as the service and as the trace tell them;
* `Payload.classify_accepts_two_shapes` — what is classified, and what is sent.
-/

namespace EventRules

namespace Api

variable {σ : Type}

/-- A service together with the calls that it has received. -/
def recorded (api : Api σ) : Api (σ × List Call) where
  name := api.name
  call call state :=
    let answer := api.call call state.1
    (answer.1, answer.2, state.2 ++ [call])

/-- Sending a value makes these calls: the service receives them, and they can be seen to begin. -/
structure Makes (api : Api σ) (rounds : Nat) (target : String) (value : Json)
    (calls : List Call) : Prop where
  received : ∀ state made,
    (api.recorded.dispatchValue rounds target value (state, made)).state.2 = made ++ calls
  seen : ∀ state, (api.dispatchValue rounds target value state).occurrences.filterMap
    Occurrence.begun? = calls

/-! ## One call -/

theorem state_dispatch (api : Api σ) (rounds : Nat) (call : Call) (state : σ) :
    (api.dispatch rounds call state).state = (api.call call state).2 := by
  rcases hcall : api.call call state with ⟨conduct, next⟩
  simp only [dispatch, hcall]
  split
  · rfl
  · split <;> rfl

theorem filterMap_begun?_dispatch (api : Api σ) (rounds : Nat) (call : Call) (state : σ) :
    (api.dispatch rounds call state).occurrences.filterMap Occurrence.begun? = [call] := by
  rcases hcall : api.call call state with ⟨conduct, next⟩
  simp only [dispatch, hcall]
  have hopening := filterMap_begun?_opening call conduct
  split
  · exact hopening
  · rename_i ending _
    -- nothing begins anew when the call ends
    have hclosing : (ending.closing api.name call).filterMap Occurrence.begun? = [] :=
      filterMap_begun?_closing api.name call (some ending)
    split
    · rw [List.filterMap_append, hopening, hclosing, List.append_nil]
    · exact hopening

/-! ## Values -/

variable {api : Api σ} {rounds : Nat} {target : String} {value : Json}

theorem makes_of_classify {payload : Payload} (h : Payload.classify value = .ok payload) :
    api.Makes rounds target value [⟨target, payload⟩] := by
  refine ⟨fun state made => ?_, fun state => ?_⟩
  · rw [dispatchValue, h]
    exact congrArg Prod.snd (state_dispatch api.recorded rounds ⟨target, payload⟩ (state, made))
  · rw [dispatchValue, h]
    exact filterMap_begun?_dispatch api rounds ⟨target, payload⟩ state

theorem makes_none_of_classify {problem : Unclassifiable}
    (h : Payload.classify value = .error problem) : api.Makes rounds target value [] := by
  refine ⟨fun state made => ?_, fun state => ?_⟩
  · rw [dispatchValue, h, List.append_nil]
  · rw [dispatchValue, h]
    rfl

end Api

namespace Payload

/-- A value is classified if it has one of two shapes, and sent as what its shape says in one call. -/
theorem classify_accepts_two_shapes (sent : Json.Ordered) :
    ((∃ action, classify sent.value = .ok (.action action)) ↔ sent.value.IsAction) ∧
    ((∃ update, classify sent.value = .ok (.property update)) ↔ sent.value.IsPropertyUpdate) ∧
    ((∃ problem, classify sent.value = .error problem) ↔
      ¬ sent.value.IsAction ∧ ¬ sent.value.IsPropertyUpdate) ∧
    -- what names a type is never taken for an update, however malformed its other fields are
    (∀ s, s ≠ "" → sent.value.get? "type" = some (.string s) →
      ∀ update, classify sent.value ≠ .ok (.property update)) ∧
    ∀ {σ : Type} (api : Api σ) (rounds : Nat) (target : String),
      (sent.value.IsAction → ∃ action, classify sent.value = .ok (.action action) ∧
        api.Makes rounds target sent.value [⟨target, .action action⟩] ∧
        Call.operation ⟨target, .action action⟩ = .createAction) ∧
      (sent.value.IsPropertyUpdate → ∃ update, classify sent.value = .ok (.property update) ∧
        api.Makes rounds target sent.value [⟨target, .property update⟩] ∧
        Call.operation ⟨target, .property update⟩ = .updateProperty) ∧
      (¬ sent.value.IsAction → ¬ sent.value.IsPropertyUpdate →
        api.Makes rounds target sent.value []) := by
  have canonical := sent.canonical
  refine ⟨exists_action_iff canonical, exists_property_iff, ⟨?_, ?_⟩, ?_, ?_⟩
  · rintro ⟨problem, h⟩
    refine ⟨fun shape => ?_, fun shape => ?_⟩
    · obtain ⟨action, hok⟩ := (exists_action_iff canonical).2 shape
      rw [h] at hok
      cases hok
    · obtain ⟨update, hok⟩ := exists_property_iff.2 shape
      rw [h] at hok
      cases hok
  · rintro ⟨noAction, noUpdate⟩
    exact exists_error_of_shapeless canonical noAction noUpdate
  · intro s hs htype update h
    exact hs ((exists_property_iff.1 ⟨update, h⟩).noType s htype)
  · intro σ api rounds target
    refine ⟨fun shape => ?_, fun shape => ?_, fun noAction noUpdate => ?_⟩
    · obtain ⟨action, h⟩ := (exists_action_iff canonical).2 shape
      exact ⟨action, h, Api.makes_of_classify h, rfl⟩
    · obtain ⟨update, h⟩ := exists_property_iff.2 shape
      exact ⟨update, h, Api.makes_of_classify h, rfl⟩
    · obtain ⟨problem, h⟩ := exists_error_of_shapeless canonical noAction noUpdate
      exact Api.makes_none_of_classify h

/-- An update of a property that names a type, and an entity that is none. -/
def mistyped : Json :=
  .object [("key", .string "active"), ("thngId", .ofNat 7), ("type", .string "scans"),
    ("value", .bool true)]

theorem mistyped_is_not_sent :
    (∃ problem, classify mistyped = .error problem) ∧
    Api.Makes (σ := Unit) DryRun.api 1 "T1" mistyped [] := by
  have hthngId : mistyped.get? "thngId" = some (.ofNat 7) := by decide +kernel
  have noAction : ¬ mistyped.IsAction := by
    intro shape
    obtain hnull | ⟨s, htext⟩ := shape.thngId _ hthngId
    · cases hnull
    · cases htext
  have noUpdate : ¬ mistyped.IsPropertyUpdate := by
    intro shape
    exact absurd (shape.noType "scans" (by decide +kernel)) (by decide)
  obtain ⟨-, -, herror, -, hsent⟩ := classify_accepts_two_shapes ⟨mistyped, by decide +kernel⟩
  exact ⟨herror.2 ⟨noAction, noUpdate⟩, (hsent DryRun.api 1 "T1").2.2 noAction noUpdate⟩

end Payload
end EventRules
