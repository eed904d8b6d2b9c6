import Mathlib.Data.List.Forall2

/-!
# Outcome — computations that may fail

* `error_of_bind`, `ok_of_bind` — how a computation in two steps fails and succeeds;
* `ok_of_toOption`, `ok_of_map`, `forall₂_of_mapM` — the same of an answer alone, of a function of
  it, and of several computations;
* `faultOf` — the fault of a computation, if it failed.
-/

namespace EventRules

/-! ## Two steps -/

/-- A computation in two steps fails in the first or, after it, in the second. -/
theorem error_of_bind {ε α β : Type} {first : Except ε α} {second : α → Except ε β} {fault : ε}
    (h : (first >>= second) = .error fault) :
    first = .error fault ∨ ∃ value, first = .ok value ∧ second value = .error fault := by
  cases first with
  | error found =>
      exact Or.inl (by simpa [bind, Except.bind] using h)
  | ok value =>
      exact Or.inr ⟨value, rfl, by simpa [bind, Except.bind] using h⟩

/-- A computation in two steps has a value if both steps have one. -/
theorem ok_of_bind {ε α β : Type} {first : Except ε α} {second : α → Except ε β} {result : β}
    (h : (first >>= second) = .ok result) :
    ∃ value, first = .ok value ∧ second value = .ok result := by
  cases first with
  | error found =>
      cases h
  | ok value =>
      exact ⟨value, rfl, h⟩

theorem ok_of_toOption {ε α : Type} {result : Except ε α} {value : α}
    (h : result.toOption = some value) : result = .ok value := by
  cases result with
  | error fault =>
      cases h
  | ok own =>
      exact congrArg _ (Option.some.inj h)

theorem ok_of_map {ε α β : Type} {f : α → β} {first : Except ε α} {result : β}
    (h : f <$> first = .ok result) : ∃ value, first = .ok value ∧ f value = result := by
  cases first with
  | error found =>
      cases h
  | ok value =>
      cases h
      exact ⟨value, rfl, rfl⟩

/-- Several computations have answers if each one has. -/
theorem forall₂_of_mapM {ε α β : Type} {f : α → Except ε β} {inputs : List α} {outputs : List β}
    (h : inputs.mapM f = .ok outputs) :
    List.Forall₂ (fun input output => f input = .ok output) inputs outputs := by
  induction inputs generalizing outputs with
  | nil =>
      cases h
      exact .nil
  | cons first rest ih =>
      rw [List.mapM_cons] at h
      obtain ⟨answer, hfirst, hothers⟩ := ok_of_bind h
      obtain ⟨answers, hrest, houtputs⟩ := ok_of_bind hothers
      cases houtputs
      exact .cons hfirst (ih hrest)

theorem mapM_of_forall₂ {ε α β : Type} {f : α → Except ε β} {inputs : List α} {outputs : List β}
    (h : List.Forall₂ (fun input output => f input = .ok output) inputs outputs) :
    inputs.mapM f = .ok outputs := by
  induction h with
  | nil =>
      rfl
  | cons hfirst _ ih =>
      rw [List.mapM_cons, hfirst, ih]
      rfl

/-- Each answer is the answer of one of the computations. -/
theorem exists_of_mem_mapM {ε α β : Type} {f : α → Except ε β} {inputs : List α}
    {outputs : List β} (h : inputs.mapM f = .ok outputs) {output : β} (hmem : output ∈ outputs) :
    ∃ input ∈ inputs, f input = .ok output := by
  have hall := forall₂_of_mapM h
  clear h
  induction hall with
  | nil =>
      cases hmem
  | @cons input first inputs _ hfirst _ ih =>
      rcases List.mem_cons.1 hmem with rfl | hlater
      · exact ⟨input, List.mem_cons_self, hfirst⟩
      · obtain ⟨own, hown, hanswer⟩ := ih hlater
        exact ⟨own, List.mem_cons_of_mem input hown, hanswer⟩

/-! ## Faults -/

/-- The fault of a computation that failed. -/
def faultOf {ε α : Type} : Except ε α → Option ε
  | .error fault => some fault
  | .ok _ => none

section Faults

variable {ε α β : Type}

theorem faultOf_eq_some_iff {result : Except ε α} {fault : ε} :
    faultOf result = some fault ↔ result = .error fault := by
  cases result <;> simp [faultOf]

theorem faultOf_eq_none_iff {result : Except ε α} :
    faultOf result = none ↔ ∃ value, result = .ok value := by
  cases result <;> simp [faultOf]

/-- A second step whose fault does not depend on the first step's value is at fault after it. -/
theorem faultOf_bind {first : Except ε α} {second : α → Except ε β} {later : Option ε}
    (hlater : ∀ value, faultOf (second value) = later) :
    faultOf (first >>= second) = (faultOf first).or later := by
  cases first with
  | error fault =>
      rfl
  | ok value =>
      exact hlater value

/-- What is done with a value at the end is no fault. -/
theorem faultOf_bind_pure {first : Except ε α} {f : α → β} :
    faultOf (do return f (← first)) = faultOf first := by
  cases first <;> rfl

end Faults

end EventRules
