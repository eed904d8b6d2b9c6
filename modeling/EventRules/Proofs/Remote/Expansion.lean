import EventRules.Proofs.Settings.Stretch
import EventRules.Remote.Http

/-!
# Expansion — the base and the key of a client without their references

The settings of a client may refer to variables.  Whether their references can be replaced, by what,
and which of them is told to be wrong if they cannot, is a matter of the stretches of the text alone.

* `Stretch.all_value_iff` — texts whose references can be replaced;
* `Stretch.exists_first_bad` — the first stretch of another text that stands for nothing;
* `HttpClient.expanded_in_one_pass` — the text of a setting, expanded.
-/

namespace EventRules

/-! ## Stretches that stand for nothing -/

namespace Stretch

variable {environment : Environment} {text : String} {stretches : List Stretch}

theorem all_value_iff :
    (∀ stretch ∈ stretches, stretch.value? environment ≠ none) ↔
      (∀ rest, .unclosed rest ∉ stretches) ∧
      ∀ name, .reference name ∈ stretches → environment.get? (String.ofList name) ≠ none := by
  constructor
  · intro values
    exact ⟨fun rest hrest => values _ hrest rfl,
      fun name hname => mt Option.map_eq_none_iff.2 (values _ hname)⟩
  · rintro ⟨closed, set⟩ stretch hmem
    cases stretch with
    | literal own =>
        exact Option.some_ne_none own
    | reference name =>
        exact mt Option.map_eq_none_iff.1 (set name hmem)
    | unclosed rest =>
        exact absurd hmem (closed rest)

theorem exists_first_bad (h : ¬ ∀ stretch ∈ stretches, stretch.value? environment ≠ none) :
    ∃ before bad after, stretches = before ++ bad :: after ∧
      (∀ stretch ∈ before, stretch.value? environment ≠ none) ∧ bad.value? environment = none := by
  have hsome : (stretches.find? fun own => (own.value? environment).isNone).isSome := by
    rw [List.find?_isSome]
    simpa using h
  obtain ⟨bad, hbad⟩ := Option.isSome_iff_exists.1 hsome
  obtain ⟨hvalue, before, after, rfl, hbefore⟩ := List.find?_eq_some_iff_append.1 hbad
  refine ⟨before, bad, after, rfl, fun own hown => ?_, by simpa using hvalue⟩
  exact Option.isSome_iff_ne_none.1 (by simpa using hbefore own hown)

end Stretch

/-! ## Texts of settings -/

namespace HttpClient

variable {environment : Environment} {text : String} {stretches : List Stretch}

theorem expanded_of_values (splits : Splits text.toList stretches)
    (values : ∀ stretch ∈ stretches, stretch.value? environment ≠ none) :
    expanded environment text =
      .ok (String.ofList (stretches.flatMap (Stretch.standsFor environment))) := by
  rw [expanded, Environment.expand_of_splits splits values]

/-- The first stretch that stands for nothing is told. -/
theorem expanded_of_faults {before after : List Stretch} {bad : Stretch} {fault : ReferenceFault}
    (splits : Splits text.toList (before ++ bad :: after))
    (values : ∀ stretch ∈ before, stretch.value? environment ≠ none)
    (faults : bad.Faults environment text fault) :
    expanded environment text = .error (.configuration fault.message) := by
  rw [expanded, Environment.expand_of_faults splits values faults]

theorem exists_faults_of_not_values (splits : Splits text.toList stretches)
    (h : ¬ ∀ stretch ∈ stretches, stretch.value? environment ≠ none) :
    ∃ before bad after fault, stretches = before ++ bad :: after ∧
      (∀ stretch ∈ before, stretch.value? environment ≠ none) ∧ bad.Faults environment text fault ∧
      expanded environment text = .error (.configuration fault.message) := by
  obtain ⟨before, bad, after, rfl, values, hnone⟩ := Stretch.exists_first_bad h
  obtain ⟨fault, faults⟩ := Stretch.value?_eq_none_iff.1 hnone
  exact ⟨before, bad, after, fault, rfl, values, faults, expanded_of_faults splits values faults⟩

theorem values_of_expanded {result : String} (splits : Splits text.toList stretches)
    (h : expanded environment text = .ok result) :
    ∀ stretch ∈ stretches, stretch.value? environment ≠ none := by
  by_contra none
  obtain ⟨_, _, _, _, -, -, -, herror⟩ := exists_faults_of_not_values splits none
  rw [h] at herror
  cases herror

/-- A text is expanded in one pass over its stretches: it is the literals and the values of the
variables in their order, unless a stretch stands for nothing, of which the first one is told. -/
theorem expanded_in_one_pass (environment : Environment) (text : String) :
    (∃! stretches, Splits text.toList stretches) ∧
    ∀ stretches, Splits text.toList stretches →
      ((∃ result, expanded environment text = .ok result) ↔
        (∀ rest, .unclosed rest ∉ stretches) ∧
        ∀ name, .reference name ∈ stretches → environment.get? (String.ofList name) ≠ none) ∧
      (∀ result, expanded environment text = .ok result →
        result.toList = stretches.flatMap (Stretch.standsFor environment)) ∧
      (∀ fault, expanded environment text = .error fault ↔
        ∃ before bad after, stretches = before ++ bad :: after ∧
          (∀ stretch ∈ before, stretch.value? environment ≠ none) ∧
          ((∃ name, bad = .reference name ∧ environment.get? (String.ofList name) = none ∧
              fault = .configuration ("env var not found: " ++ String.ofList name)) ∨
            ∃ rest, bad = .unclosed rest ∧
              fault = .configuration ("unclosed env var reference in: " ++ text))) ∧
      (¬ Stretch.opening <:+: text.toList → expanded environment text = .ok text) := by
  refine ⟨existsUnique_splits text.toList, fun stretches splits => ⟨?_, ?_, ?_, fun h => ?_⟩⟩
  · rw [← Stretch.all_value_iff]
    exact ⟨fun ⟨_, h⟩ => values_of_expanded splits h, fun values => ⟨_, expanded_of_values splits values⟩⟩
  · intro result h
    have hresult := expanded_of_values splits (values_of_expanded splits h)
    obtain rfl := Except.ok.inj (hresult.symm.trans h)
    exact String.toList_ofList
  · intro fault
    constructor
    · intro h
      have none : ¬ ∀ stretch ∈ stretches, stretch.value? environment ≠ none := by
        intro values
        rw [expanded_of_values splits values] at h
        cases h
      obtain ⟨before, bad, after, own, hsplit, values, faults, herror⟩ :=
        exists_faults_of_not_values splits none
      obtain rfl := Except.error.inj (herror.symm.trans h)
      refine ⟨before, bad, after, hsplit, values, ?_⟩
      cases faults with
      | unset hname =>
          exact Or.inl ⟨_, rfl, hname, rfl⟩
      | unclosed =>
          exact Or.inr ⟨_, rfl, rfl⟩
    · rintro ⟨before, bad, after, rfl, values, ⟨name, rfl, hname, rfl⟩ | ⟨rest, rfl, rfl⟩⟩
      · exact expanded_of_faults splits values (.unset hname)
      · exact expanded_of_faults splits values .unclosed
  · rw [expanded, Environment.expand_eq_self h]

/-- A value is not looked at again. -/
example : expanded [("HOST", "$\x7bPORT\x7d"), ("PORT", "80")]
    "http://$\x7bHOST\x7d:$\x7bPORT\x7d/\x7d" = .ok "http://$\x7bPORT\x7d:80/\x7d" := by
  decide +kernel

end HttpClient
end EventRules
