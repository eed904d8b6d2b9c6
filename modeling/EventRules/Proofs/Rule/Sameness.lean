import EventRules.Proofs.Number.Integer
import EventRules.Proofs.Rule.Comparison

/-!
# Sameness — one text and one number

Two values of one text have one number, if both have a number at all: what is written for a number is
read as that number, and what is written for a boolean is no numeral.  So values that are exactly the
same are loosely equal, except for the texts that are read as what is not a number.

* `Json.number?_unique` — one text, one number;
* `Json.number?_eq_nan_iff` — the values that are not a number;
* `Operator.same_but_unequal_iff` — exactly the same and yet not equal.
-/

namespace EventRules

namespace Json

variable {a b : Json} {x y : Binary64}

/-- A text that is read, between blanks or not, as what is not a number. -/
def SpellsNaN (s : String) : Prop := Numeral.SpellsNaN (Text.trimChars s.toList)

/-- Values that are not booleans have the number that their text has. -/
theorem number?_text (h : a.number? = some x) (hbool : ∀ c, a ≠ .bool c) :
    Numeral.ofChars? (Text.trimChars a.text.toList) = some x := by
  cases a with
  | number n =>
      cases h
      exact Numeral.ofChars?_trimChars (Numeral.ofChars?_toText n)
  | string s =>
      exact h
  | bool c =>
      exact absurd rfl (hbool c)
  | null | array _ | object _ =>
      cases h

theorem not_numeral_boolText (c : Bool) :
    Numeral.ofChars? (Text.trimChars (boolText c).toList) = none := by
  cases c with
  | true =>
      rfl
  | false =>
      rfl

theorem boolText_injective {c d : Bool} (h : boolText c = boolText d) : c = d := by
  cases c <;> cases d <;> first | rfl | exact absurd h (by decide)

/-- Values of one text have one number. -/
theorem number?_unique (h : a.text = b.text) (ha : a.number? = some x)
    (hb : b.number? = some y) : x = y := by
  -- a boolean shares its text with no number and no numeral, only with itself
  by_cases habool : ∃ c, a = .bool c
  · obtain ⟨c, rfl⟩ := habool
    by_cases hbbool : ∃ d, b = .bool d
    · obtain ⟨d, rfl⟩ := hbbool
      have hcd : c = d := boolText_injective h
      subst hcd
      exact Option.some.inj (ha.symm.trans hb)
    · have hread := number?_text hb (not_exists.1 hbbool)
      rw [← h] at hread
      exact absurd (hread.symm.trans (not_numeral_boolText c)) nofun
  · have hread := number?_text ha (not_exists.1 habool)
    by_cases hbbool : ∃ d, b = .bool d
    · obtain ⟨d, rfl⟩ := hbbool
      rw [h] at hread
      exact absurd (hread.symm.trans (not_numeral_boolText d)) nofun
    · rw [h] at hread
      exact Option.some.inj (hread.symm.trans (number?_text hb (not_exists.1 hbbool)))

theorem number_toBinary64_ne_nan (n : Number) : n.toBinary64 ≠ .nan := by
  cases n with
  | integer i _ =>
      exact Binary64.ofUnits_ne_nan _ _ _
  | float x =>
      exact nofun

/-- Only texts have a number that is none. -/
theorem number?_eq_nan_iff : a.number? = some .nan ↔ ∃ s, a = .string s ∧ SpellsNaN s := by
  constructor
  · intro h
    cases a with
    | string s =>
        exact ⟨s, rfl, Numeral.ofChars?_eq_nan_iff.1 h⟩
    | number n =>
        exact absurd (Option.some.inj h) (number_toBinary64_ne_nan n)
    | bool c =>
        exact absurd (Option.some.inj h) (Binary64.ofUnits_ne_nan _ _ _)
    | null | array _ | object _ =>
        cases h
  · rintro ⟨s, rfl, h⟩
    exact Numeral.ofChars?_eq_nan_iff.2 h

/-- Values of one text are unequal exactly if that text is read as what is not a number. -/
theorem looselyEqual_of_text (h : a.text = b.text) :
    a.looselyEqual b = false ↔ a.number? = some .nan ∧ b.number? = some .nan := by
  by_cases hnumbers : a.IsNumeric ∧ b.IsNumeric
  · obtain ⟨x, hx⟩ := isNumeric_iff.1 hnumbers.1
    obtain ⟨y, hy⟩ := isNumeric_iff.1 hnumbers.2
    obtain rfl := number?_unique h hx hy
    rw [looselyEqual_of_numbers hx hy, hx, hy, and_self, Option.some.injEq]
    -- the one number is compared with itself
    by_cases hnan : x = .nan
    · subst hnan
      exact ⟨fun _ => rfl, fun _ => rfl⟩
    · rw [Binary64.compare?_self hnan]
      exact ⟨nofun, fun h => absurd h hnan⟩
  · rw [looselyEqual_of_not_numbers hnumbers, h]
    constructor
    · intro hne
      exact absurd hne (by simp)
    · rintro ⟨ha, hb⟩
      exact absurd ⟨isNumeric_iff.2 ⟨_, ha⟩, isNumeric_iff.2 ⟨_, hb⟩⟩ hnumbers

end Json

namespace Operator

variable {a b : Json}

/-- Values that are exactly the same are equal, unless they are one text that is read as what is not a
number. -/
theorem same_but_unequal_iff (a b : Json) :
    (is.holds a b = true ∧ ¬ (eq.holds a b = true ∧ neq.holds a b = false) ↔
      ∃ s, a = .string s ∧ b = .string s ∧ Json.SpellsNaN s) ∧
    (eq.holds a a = false ↔ ∃ s, a = .string s ∧ Json.SpellsNaN s) := by
  have hsame : is.holds a b = true ↔ a.text = b.text := beq_iff_eq
  have hequal : ¬ (eq.holds a b = true ∧ neq.holds a b = false) ↔ a.looselyEqual b = false := by
    simp [holds]
  refine ⟨?_, ?_⟩
  · rw [hsame, hequal]
    constructor
    · rintro ⟨htext, hunequal⟩
      obtain ⟨ha, hb⟩ := (Json.looselyEqual_of_text htext).1 hunequal
      obtain ⟨s, rfl, hs⟩ := Json.number?_eq_nan_iff.1 ha
      obtain ⟨t, rfl, -⟩ := Json.number?_eq_nan_iff.1 hb
      exact ⟨s, rfl, congrArg Json.string htext.symm, hs⟩
    · rintro ⟨s, rfl, rfl, hs⟩
      have hnan := Json.number?_eq_nan_iff.2 ⟨s, rfl, hs⟩
      exact ⟨rfl, (Json.looselyEqual_of_text rfl).2 ⟨hnan, hnan⟩⟩
  · rw [← Json.number?_eq_nan_iff]
    exact (Json.looselyEqual_of_text rfl).trans (and_self_iff)

/-- The word for what is not a number is exactly the same as itself, and yet not equal. -/
theorem nan_is_unequal_to_itself :
    is.holds (.string "nan") (.string "nan") = true ∧
      eq.holds (.string "nan") (.string "nan") = false ∧
      neq.holds (.string "nan") (.string "nan") = true := by
  decide +kernel

end Operator
end EventRules
