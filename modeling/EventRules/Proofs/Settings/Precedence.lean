import EventRules.Proofs.Number.Numeral
import EventRules.Proofs.Settings.Key
import EventRules.Proofs.Settings.Supply

/-!
# Precedence — which variable a setting is taken from

A setting is taken from the variable of the active profile if that has a text which is not empty, or
else from the plain one, and what it is taken from decides: a time that is no number is not looked up
anywhere else.  The variables of other profiles have no part in the settings.

* `Settings.Chooses`, `Settings.chooses_lookup` — the text of a setting;
* `Settings.seconds?_eq_some_iff` — the numbers of seconds;
* `Settings.OfOtherProfile`, `Settings.ofEnvironment_of_agreeOff` — what the settings do not depend on.
-/

namespace EventRules

/-- A name has no text, or an empty one. -/
def Environment.Lacks (environment : Environment) (name : String) : Prop :=
  ∀ text, environment.get? name = some text → text = ""

theorem Environment.nonEmpty?_eq_none_iff {environment : Environment} {name : String} :
    environment.nonEmpty? name = none ↔ environment.Lacks name := by
  simp [nonEmpty?, Option.filter_eq_none_iff, Lacks]

namespace Settings

variable {environment other : Environment} {profile key name : String}

/-! ## Texts of settings -/

/-- The text that a setting takes: that of the profile, or else the plain one, or none. -/
inductive Chooses (environment : Environment) (profile key : String) : Option String → Prop
  | own {text : String} :
      profile ≠ "" → environment.get? (profile ++ "_" ++ key) = some text → text ≠ "" →
      Chooses environment profile key (some text)
  | plain {text : String} :
      profile = "" ∨ environment.Lacks (profile ++ "_" ++ key) →
      environment.get? key = some text → text ≠ "" →
      Chooses environment profile key (some text)
  | default :
      profile = "" ∨ environment.Lacks (profile ++ "_" ++ key) → environment.Lacks key →
      Chooses environment profile key none

theorem chooses_lookup (environment : Environment) (profile key : String) :
    Chooses environment profile key (lookup environment profile key) := by
  -- what is left to the plain variable if the profile has no text of its own
  have hplain (hown : profile = "" ∨ environment.Lacks (profile ++ "_" ++ key)) :
      Chooses environment profile key (environment.nonEmpty? key) := by
    cases hkey : environment.nonEmpty? key with
    | none =>
        exact .default hown (Environment.nonEmpty?_eq_none_iff.1 hkey)
    | some text =>
        obtain ⟨htext, hsome⟩ := Environment.nonEmpty?_eq_some_iff.1 hkey
        exact .plain hown htext hsome
  unfold lookup
  by_cases hprofile : profile = ""
  · rw [if_pos hprofile]
    exact hplain (.inl hprofile)
  · rw [if_neg hprofile]
    cases hown : environment.nonEmpty? (profile ++ "_" ++ key) with
    | none =>
        exact hplain (.inr (Environment.nonEmpty?_eq_none_iff.1 hown))
    | some text =>
        obtain ⟨htext, hsome⟩ := Environment.nonEmpty?_eq_some_iff.1 hown
        exact .own hprofile htext hsome

/-! ## Seconds -/

/-- The number of seconds in a text: decimal digits, behind a plus sign or none, of a number of 64
bits. -/
structure ReadsSeconds (text : String) (n : ℕ) : Prop where
  spelled : ∃ digits, (text.toList = digits ∨ text.toList = '+' :: digits) ∧ digits ≠ [] ∧
    AllDigits digits ∧ Numeral.natOfDigits digits = n
  fits : n < 2 ^ 64

/-- What is left of a text without a plus sign at its beginning. -/
def withoutPlus : List Char → List Char
  | '+' :: rest => rest
  | cs => cs

theorem withoutPlus_eq_iff {cs digits : List Char} (hdigits : AllDigits digits) :
    withoutPlus cs = digits ↔ cs = digits ∨ cs = '+' :: digits := by
  unfold withoutPlus
  split
  · rename_i rest
    refine ⟨fun h => .inr (congrArg _ h), fun h => h.elim (fun hsame => ?_) List.tail_eq_of_cons_eq⟩
    -- a plus sign is no digit
    have hplus := hdigits '+' (hsame ▸ List.mem_cons_self)
    exact absurd hplus (by decide)
  · rename_i hnone
    exact ⟨.inl, fun h => h.elim id fun hsame => absurd hsame (hnone digits)⟩

theorem seconds?_eq (text : String) :
    seconds? text =
      let digits := withoutPlus text.toList
      if digits.isEmpty || !digits.all Char.isDigit then none
      else if Numeral.natOfDigits digits < 2 ^ 64 then some (Numeral.natOfDigits digits)
      else none := rfl

theorem seconds?_eq_some_iff {text : String} {n : ℕ} :
    seconds? text = some n ↔ ReadsSeconds text n := by
  have hdigits (cs : List Char) :
      (cs.isEmpty || !cs.all Char.isDigit) = false ↔ cs ≠ [] ∧ AllDigits cs := by
    simp [AllDigits]
  rw [seconds?_eq]
  dsimp only
  constructor
  · intro h
    cases hwrong : (withoutPlus text.toList).isEmpty ||
        !(withoutPlus text.toList).all Char.isDigit with
    | true =>
        rw [hwrong, if_pos rfl] at h
        cases h
    | false =>
        obtain ⟨hne, hall⟩ := (hdigits _).1 hwrong
        rw [hwrong, if_neg Bool.false_ne_true, Option.ite_none_right_eq_some] at h
        obtain ⟨hfits, hn⟩ := h
        cases hn
        exact ⟨⟨_, (withoutPlus_eq_iff hall).1 rfl, hne, hall, rfl⟩, hfits⟩
  · rintro ⟨⟨digits, hspelled, hne, hall, rfl⟩, hfits⟩
    rw [(withoutPlus_eq_iff hall).2 hspelled, (hdigits digits).2 ⟨hne, hall⟩, if_pos hfits]
    rfl

/-- The time that a text gives; the usual one, if there is no text or no number in it. -/
inductive SecondsOf : Option String → ℕ → Prop
  | read {text : String} {n : ℕ} : ReadsSeconds text n → SecondsOf (some text) n
  | unreadable {text : String} :
      (∀ n, ¬ ReadsSeconds text n) → SecondsOf (some text) defaultTimeoutSeconds
  | absent : SecondsOf none defaultTimeoutSeconds

theorem secondsOf_bind (chosen : Option String) :
    SecondsOf chosen ((chosen.bind seconds?).getD defaultTimeoutSeconds) := by
  cases chosen with
  | none =>
      exact .absent
  | some text =>
      rw [Option.bind_some]
      cases hseconds : seconds? text with
      | none =>
          refine .unreadable fun n hreads => ?_
          cases hseconds.symm.trans (seconds?_eq_some_iff.2 hreads)
      | some n =>
          exact .read (seconds?_eq_some_iff.1 hseconds)

/-! ## Other profiles -/

/-- The settings that a profile can have variables of its own for. -/
def keys : List String := ["API_URL", "API_KEY", "API_TIMEOUT_SECS"]

/-- The variable of a setting of another profile than the given one. -/
def OfOtherProfile (profile name : String) : Prop :=
  ∃ other key, other ≠ profile ∧ key ∈ keys ∧ name = other ++ "_" ++ key

/-- What follows the name of a profile. -/
def suffixOf (key : String) : List Char := '_' :: key.toList

theorem toList_variable (profile key : String) :
    (profile ++ "_" ++ key).toList = profile.toList ++ suffixOf key := by
  rw [String.toList_append, String.toList_append, List.append_assoc]
  rfl

theorem ofOtherProfile_iff :
    OfOtherProfile profile name ↔
      ∃ key ∈ keys, suffixOf key <:+ name.toList ∧ name ≠ profile ++ "_" ++ key := by
  constructor
  · rintro ⟨other, key, hother, hkey, rfl⟩
    refine ⟨key, hkey, ⟨other.toList, (toList_variable ..).symm⟩, fun same => hother ?_⟩
    exact (String.append_left_inj _).1 ((String.append_left_inj _).1 same)
  · rintro ⟨key, hkey, ⟨other, hname⟩, hne⟩
    have hsame : name = String.ofList other ++ "_" ++ key := by
      apply String.ext
      rw [toList_variable, String.toList_ofList, hname]
    refine ⟨String.ofList other, key, ?_, hkey, hsame⟩
    rintro rfl
    exact hne hsame

instance (profile name : String) : Decidable (OfOtherProfile profile name) :=
  decidable_of_iff _ ofOtherProfile_iff.symm

/-- No setting's variable can be taken for that of another setting. -/
theorem not_ofOtherProfile_own (hkey : key ∈ keys) :
    ¬ OfOtherProfile profile (profile ++ "_" ++ key) := by
  have hapart : ∀ first ∈ keys, ∀ second ∈ keys, suffixOf first <:+ suffixOf second →
      first = second := by
    decide
  intro h
  obtain ⟨found, hfound, hsuffix, hne⟩ := ofOtherProfile_iff.1 h
  rw [toList_variable] at hsuffix
  refine hne ?_
  -- of two suffixes of one name the shorter is a suffix of the longer, so the keys are the same
  rcases List.suffix_or_suffix_of_suffix hsuffix (List.suffix_append ..) with hinto | hinto
  · rw [hapart found hfound key hkey hinto]
  · rw [hapart key hkey found hfound hinto]

theorem not_ofOtherProfile_of_plain (h : ∀ key ∈ keys, ¬ suffixOf key <:+ name.toList)
    (profile : String) : ¬ OfOtherProfile profile name := by
  intro hother
  obtain ⟨key, hkey, hsuffix, -⟩ := ofOtherProfile_iff.1 hother
  exact h key hkey hsuffix

section Agreement

variable (h : Environment.AgreeOff (OfOtherProfile (activeProfile environment)) environment other)

include h

theorem activeProfile_of_agreeOff : activeProfile other = activeProfile environment := by
  rw [activeProfile, h _ (not_ofOtherProfile_of_plain (by decide) _), activeProfile]

theorem lookup_of_agreeOff (hkey : key ∈ keys) :
    lookup other (activeProfile environment) key =
      lookup environment (activeProfile environment) key := by
  have hplain : ∀ plain ∈ keys, ∀ own ∈ keys, ¬ suffixOf own <:+ plain.toList := by
    decide
  exact lookup_congr (h _ (not_ofOtherProfile_own hkey))
    (h key (not_ofOtherProfile_of_plain (hplain key hkey) _))

/-- The settings do not depend on the variables of other profiles. -/
theorem ofEnvironment_of_agreeOff : ofEnvironment other = ofEnvironment environment := by
  have hprofile := activeProfile_of_agreeOff h
  unfold activeProfile at hprofile
  unfold ofEnvironment ofProfile
  dsimp only
  rw [hprofile]
  have hlookup {key : String} (hkey : key ∈ keys) := lookup_of_agreeOff h hkey
  unfold activeProfile at hlookup
  rw [hlookup (by decide), hlookup (by decide), hlookup (by decide)]

end Agreement

end Settings

end EventRules
