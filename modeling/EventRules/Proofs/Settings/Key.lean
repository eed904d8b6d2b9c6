import EventRules.Proofs.Settings.Stretch
import EventRules.Settings.Basic

/-!
# Key — which part of the settings the key is

The key of the remote service is the value of one variable: that of the active profile, or the plain
one.  An environment with another key gives the same settings with another key.

* `Settings.keyVariable` — the variable that the key is taken from;
* `Settings.Twins` — environments that differ in the key alone;
* `Settings.Twins.ofEnvironment` — their settings.
-/

namespace EventRules

namespace Environment

theorem nonEmpty?_eq_some_iff {environment : Environment} {name value : String} :
    environment.nonEmpty? name = some value ↔ environment.get? name = some value ∧ value ≠ "" := by
  rw [nonEmpty?, Option.filter_eq_some_iff, bne_iff_ne]

end Environment

namespace Settings

/-! ## Variables -/

/-- The profile that an environment makes the active one. -/
def activeProfile (environment : Environment) : String :=
  Text.toUpper ((environment.get? profileVariable).getD "")

/-- The variable that the key of the remote service is taken from. -/
def keyVariable (environment : Environment) : String :=
  let own := activeProfile environment ++ "_" ++ "API_KEY"
  if activeProfile environment ≠ "" ∧ (environment.nonEmpty? own).isSome then own else "API_KEY"

theorem lookup_key (environment : Environment) :
    lookup environment (activeProfile environment) "API_KEY" =
      environment.nonEmpty? (keyVariable environment) := by
  unfold lookup keyVariable
  by_cases hprofile : activeProfile environment = ""
  · simp [hprofile]
  · cases hown : environment.nonEmpty? (activeProfile environment ++ "_" ++ "API_KEY") with
    | none =>
        simp [hprofile, hown]
    | some value =>
        simp [hprofile, hown]

/-- No other variable that the worker looks at has a name that ends like that of the key. -/
theorem ne_keyVariable {name : String} (h : name.toList.getLast? ≠ some 'Y')
    (environment : Environment) : name ≠ keyVariable environment := by
  rintro rfl
  refine h ?_
  unfold keyVariable
  dsimp only
  split
  · simp [List.getLast?_append]
  · rfl

/-- A setting is looked up in two variables and nowhere else. -/
theorem lookup_congr {environment other : Environment} {profile key : String}
    (hown : other.get? (profile ++ "_" ++ key) = environment.get? (profile ++ "_" ++ key))
    (hplain : other.get? key = environment.get? key) :
    lookup other profile key = lookup environment profile key := by
  unfold lookup Environment.nonEmpty?
  rw [hown, hplain]

/-! ## Environments -/

/-- A key that can be sent as it is: visible characters of one byte each, and no references. -/
structure IsPlainKey (key : String) : Prop where
  nonEmpty : key ≠ ""
  visible : ∀ c ∈ key.toList, '!' ≤ c ∧ c ≤ '~'
  noReference : '$' ∉ key.toList

theorem isPlainKey_iff {key : String} :
    IsPlainKey key ↔
      (key != "" && key.toList.all fun c => decide ('!' ≤ c) && decide (c ≤ '~') && c != '$') =
        true := by
  simp only [Bool.and_eq_true, bne_iff_ne, List.all_eq_true, decide_eq_true_eq]
  constructor
  · rintro ⟨nonEmpty, visible, noReference⟩
    exact ⟨nonEmpty, fun c hc => ⟨visible c hc, fun same => noReference (same ▸ hc)⟩⟩
  · rintro ⟨nonEmpty, hall⟩
    exact ⟨nonEmpty, fun c hc => (hall c hc).1, fun hmem => (hall '$' hmem).2 rfl⟩

instance (key : String) : Decidable (IsPlainKey key) := decidable_of_iff _ isPlainKey_iff.symm

/-- Two environments that differ in nothing but the key, which is plain in both. -/
structure Twins (first second : Environment) (key key' : String) : Prop where
  elsewhere : ∀ name, name ≠ keyVariable first → second.get? name = first.get? name
  key_first : first.get? (keyVariable first) = some key
  key_second : second.get? (keyVariable first) = some key'
  plain : IsPlainKey key
  plain' : IsPlainKey key'

namespace Twins

variable {first second : Environment} {key key' : String}

theorem get? (h : Twins first second key key') {name : String}
    (hname : name.toList.getLast? ≠ some 'Y') : second.get? name = first.get? name :=
  h.elsewhere name (ne_keyVariable hname first)

theorem activeProfile (h : Twins first second key key') :
    activeProfile second = activeProfile first := by
  unfold Settings.activeProfile
  rw [h.get? (by decide)]

/-- The key is taken from the same variable: one that was set is still set, and the others are the
same as before. -/
theorem keyVariable (h : Twins first second key key') : keyVariable second = keyVariable first := by
  have hkey := Environment.nonEmpty?_eq_some_iff.2 ⟨h.key_second, h.plain'.nonEmpty⟩
  unfold Settings.keyVariable at hkey ⊢
  rw [h.activeProfile]
  dsimp only at hkey ⊢
  split at hkey
  · rename_i own
    rw [if_pos ⟨own.1, by rw [hkey]; rfl⟩, if_pos own]
  · rename_i other
    have hown : Settings.activeProfile first ++ "_" ++ "API_KEY" ≠ Settings.keyVariable first := by
      intro same
      have hlength := congrArg String.length same
      unfold Settings.keyVariable at hlength
      dsimp only at hlength
      rw [if_neg other, String.length_append, String.length_append] at hlength
      have hmark : "_".length = 1 := rfl
      omega
    have hsame : second.nonEmpty? (Settings.activeProfile first ++ "_" ++ "API_KEY") =
        first.nonEmpty? (Settings.activeProfile first ++ "_" ++ "API_KEY") := by
      unfold Environment.nonEmpty?
      rw [h.elsewhere _ hown]
    rw [hsame]

theorem symm (h : Twins first second key key') : Twins second first key' key where
  elsewhere name hname := (h.elsewhere name (h.keyVariable ▸ hname)).symm
  key_first := h.keyVariable ▸ h.key_second
  key_second := h.keyVariable ▸ h.key_first
  plain := h.plain'
  plain' := h.plain

/-! ## Settings -/

theorem lookup (h : Twins first second key key') (profile : String) {name : String}
    (hname : name.toList.getLast? ≠ some 'Y') (some : name.toList ≠ []) :
    lookup second profile name = lookup first profile name := by
  have hlast : (profile ++ "_" ++ name).toList.getLast? ≠ .some 'Y' := by
    rw [String.toList_append, List.getLast?_append, Option.or_of_isSome]
    · exact hname
    · simpa using some
  exact lookup_congr (h.get? hlast) (h.get? hname)

theorem key_eq (h : Twins first second key key') : (ofEnvironment first).api.key = some key :=
  (lookup_key first).trans
    (Environment.nonEmpty?_eq_some_iff.2 ⟨h.key_first, h.plain.nonEmpty⟩)

/-- Nothing but the key is another one in the settings. -/
theorem ofEnvironment (h : Twins first second key key') :
    ofEnvironment second =
      { ofEnvironment first with api := { (ofEnvironment first).api with key := some key' } } := by
  have hkey := h.symm.key_eq
  have hsame : ∀ profile, { ofProfile second profile with
        api := { (ofProfile second profile).api with key := some key' } } =
      { ofProfile first profile with
        api := { (ofProfile first profile).api with key := some key' } } := by
    intro profile
    unfold ofProfile
    dsimp only
    rw [h.lookup _ (by decide) (by decide), h.lookup _ (by decide) (by decide)]
  have hprofile : second.get? profileVariable = first.get? profileVariable := h.get? (by decide)
  calc Settings.ofEnvironment second
      = { Settings.ofEnvironment second with
          api := { (Settings.ofEnvironment second).api with key := some key' } } := by rw [← hkey]
    _ = _ := by
      unfold Settings.ofEnvironment
      rw [hprofile, hsame]

theorem summary (h : Twins first second key key') :
    (Settings.ofEnvironment second).summary = (Settings.ofEnvironment first).summary := by
  rw [h.ofEnvironment]
  unfold Settings.summary
  rw [ApiSettings.isConfigured, ApiSettings.isConfigured, h.key_eq]
  rfl

end Twins
end Settings

end EventRules
