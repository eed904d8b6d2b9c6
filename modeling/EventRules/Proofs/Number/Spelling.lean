import EventRules.Proofs.Number.Numeral
import EventRules.Proofs.Text.Blank

/-!
# Spelling — which texts are numerals

* `Numeral.Sign`, `Numeral.exists_sign` — what may stand before a numeral;
* `Numeral.unblank_of_ofChars?` — no numeral has a blank in it;
* `Numeral.SpellsNaN`, `Numeral.ofChars?_eq_nan_iff` — the only numerals of what is not a number are
  words.
-/

namespace EventRules

namespace Text.Unblank

variable {xs : List Char}

theorem of_allDigits (h : AllDigits xs) : Unblank xs := by
  intro c hc
  obtain ⟨hlow, hhigh⟩ := Char.isDigit_iff_toNat.1 (h c hc)
  simp only [Char.reduceToNat] at hlow hhigh
  simp [Text.isBlank]
  omega

theorem takeWhile_digits (xs : List Char) : Unblank (xs.takeWhile Char.isDigit) :=
  of_allDigits fun _ hc => List.all_eq_true.1 List.all_takeWhile _ hc

end Text.Unblank

namespace Numeral

open Text (Unblank)

/-! ## Signs -/

/-- What may stand before a numeral, and whether it is a minus. -/
inductive Sign : List Char → Bool → Prop
  | none : Sign [] false
  | plus : Sign ['+'] false
  | minus : Sign ['-'] true

/-- A sign is split off what has none. -/
theorem Sign.split {sign cs : List Char} {negative : Bool} (h : Sign sign negative)
    (hrest : splitSign cs = (false, cs)) : splitSign (sign ++ cs) = (negative, cs) := by
  cases h with
  | none =>
      exact hrest
  | plus =>
      rfl
  | minus =>
      rfl

theorem exists_sign {cs rest : List Char} {negative : Bool}
    (h : splitSign cs = (negative, rest)) : ∃ sign, Sign sign negative ∧ cs = sign ++ rest := by
  rw [splitSign.eq_def] at h
  split at h
  · cases h
    exact ⟨_, .minus, rfl⟩
  · cases h
    exact ⟨_, .plus, rfl⟩
  · cases h
    exact ⟨_, .none, rfl⟩

theorem Sign.unblank {sign : List Char} {negative : Bool} (h : Sign sign negative) :
    Unblank sign := by
  cases h with
  | none =>
      exact .nil
  | plus | minus =>
      exact .cons (by decide) .nil

theorem unblank_of_splitSign {cs rest : List Char} {negative : Bool}
    (h : splitSign cs = (negative, rest)) (hrest : Unblank rest) : Unblank cs := by
  obtain ⟨sign, hsign, rfl⟩ := exists_sign h
  exact hsign.unblank.append hrest

/-! ## Blanks -/

theorem unblank_of_exponent? {cs : List Char} {e : Int} (h : exponent? cs = some e) :
    Unblank cs := by
  cases hsplit : splitSign cs with
  | mk negative digits =>
      rw [exponent?, hsplit] at h
      dsimp only at h
      split at h
      · cases h
      · rename_i hdigits
        simp only [Bool.or_eq_true, Bool.not_eq_true', not_or, Bool.not_eq_false] at hdigits
        exact unblank_of_splitSign hsplit (.of_allDigits (List.all_eq_true.1 hdigits.2))

theorem unblank_of_decimal? {cs : List Char} {d : Decimal} (h : decimal? cs = some d) :
    Unblank cs := by
  rw [← List.takeWhile_append_dropWhile (p := Char.isDigit) (l := cs)]
  refine (Unblank.takeWhile_digits cs).append ?_
  rw [decimal?] at h
  generalize cs.dropWhile Char.isDigit = afterWhole at h ⊢
  split at h
  rename_i fraction rest hpair
  -- the digits behind a point are taken off before the exponent is read
  have hparts : Unblank rest → Unblank afterWhole := by
    intro hrest
    split at hpair
    · cases hpair
      refine .cons (by decide) ?_
      rename_i more
      rw [← List.takeWhile_append_dropWhile (p := Char.isDigit) (l := more)]
      exact (Unblank.takeWhile_digits more).append hrest
    · cases hpair
      exact hrest
  split at h
  · cases h
  · apply hparts
    dsimp only at h
    split at h
    · exact .nil
    · obtain ⟨e, he, -⟩ := Option.map_eq_some_iff.1 h
      exact .cons (by decide) (unblank_of_exponent? he)
    · obtain ⟨e, he, -⟩ := Option.map_eq_some_iff.1 h
      exact .cons (by decide) (unblank_of_exponent? he)
    · cases h

theorem unblank_of_parse? {cs : List Char} {negative : Bool} {d : Decimal}
    (h : parse? cs = some (negative, d)) : Unblank cs := by
  cases hsplit : splitSign cs with
  | mk negative rest =>
      rw [parse?, hsplit] at h
      obtain ⟨d', hd, -⟩ := Option.map_eq_some_iff.1 h
      exact unblank_of_splitSign hsplit (unblank_of_decimal? hd)

/-! ## Words -/

/-- Only the letters from `A` to `Z` have another form. -/
theorem toLower_of_outside {c : Char} (h : c.toNat < 65 ∨ 90 < c.toNat) : c.toLower = c := by
  apply Char.toLower_eq_of_not_isUpper
  simp only [Char.isUpper, decide_eq_true_eq]
  rintro ⟨hlow, hhigh⟩
  have hlow' : 65 ≤ c.toNat := hlow
  have hhigh' : c.toNat ≤ 90 := hhigh
  omega

theorem toLower_of_isBlank {c : Char} (h : Text.isBlank c = true) : c.toLower = c := by
  simp [Text.isBlank] at h
  exact toLower_of_outside (by omega)

theorem toLower_of_isDigit {c : Char} (h : c.isDigit = true) : c.toLower = c := by
  obtain ⟨-, hhigh⟩ := Char.isDigit_iff_toNat.1 h
  simp only [Char.reduceToNat] at hhigh
  exact toLower_of_outside (by omega)

/-- White space has no case. -/
theorem unblank_of_map_toLower {cs : List Char} (h : Unblank (cs.map Char.toLower)) :
    Unblank cs := by
  intro c hc
  by_contra hblank
  rw [Bool.not_eq_false] at hblank
  have hlower := h c.toLower (List.mem_map_of_mem hc)
  rw [toLower_of_isBlank hblank, hblank] at hlower
  cases hlower

theorem unblank_of_word? {cs : List Char} {x : Binary64} (h : word? cs = some x) : Unblank cs := by
  cases hsplit : splitSign cs with
  | mk negative rest =>
      rw [word?, hsplit] at h
      refine unblank_of_splitSign hsplit (unblank_of_map_toLower ?_)
      have hlower : rest.map Char.toLower = (String.ofList (rest.map Char.toLower)).toList :=
        String.toList_ofList.symm
      have hwords : Unblank "inf".toList ∧ Unblank "infinity".toList ∧ Unblank "nan".toList := by
        simp [Unblank, Text.isBlank]
      obtain ⟨hinf, hinfinity, hnan⟩ := hwords
      rw [hlower]
      dsimp only at h
      split at h
      · rename_i hword
        rw [Bool.or_eq_true, decide_eq_true_eq, decide_eq_true_eq] at hword
        rcases hword with hword | hword
        · rw [hword]
          exact hinf
        · rw [hword]
          exact hinfinity
      · split at h
        · rename_i hword
          rw [hword]
          exact hnan
        · cases h

theorem unblank_of_ofChars? {cs : List Char} {x : Binary64} (h : ofChars? cs = some x) :
    Unblank cs := by
  rw [ofChars?] at h
  split at h
  · rename_i hparse
    exact unblank_of_parse? hparse
  · exact unblank_of_word? h

/-- Trimming leaves a numeral alone. -/
theorem ofChars?_trimChars {cs : List Char} {x : Binary64} (h : ofChars? cs = some x) :
    ofChars? (Text.trimChars cs) = some x := by
  rw [Text.trimChars_of_unblank (unblank_of_ofChars? h), h]

/-! ## What is not a number -/

/-- The word for what is not a number, in any case and perhaps behind a sign. -/
inductive SpellsNaN : List Char → Prop
  | intro {sign word : List Char} {negative : Bool} : Sign sign negative →
      word.map Char.toLower = ['n', 'a', 'n'] → SpellsNaN (sign ++ word)

end Numeral

namespace Binary64

theorem ofUnits_ne_nan (negative : Bool) (num den : Nat) : ofUnits negative num den ≠ .nan := by
  have hparts : ∀ mantissa scale, ofParts negative mantissa scale ≠ .nan := by
    intro mantissa scale h
    rw [ofParts] at h
    split_ifs at h
  rw [ofUnits]
  split_ifs
  · exact hparts _ _
  · exact hparts _ _

theorem ofDecimal_ne_nan (negative : Bool) (significand : Nat) (exponent : Int) :
    ofDecimal negative significand exponent ≠ .nan := by
  intro h
  rw [ofDecimal] at h
  split_ifs at h
  · exact ofUnits_ne_nan _ _ _ h
  · exact ofUnits_ne_nan _ _ _ h

end Binary64

namespace Numeral

/-- A word has no digits. -/
theorem parse?_of_spellsNaN {sign word : List Char} {negative : Bool} (hsign : Sign sign negative)
    (hword : word.map Char.toLower = ['n', 'a', 'n']) :
    splitSign (sign ++ word) = (negative, word) ∧ parse? (sign ++ word) = none := by
  cases word with
  | nil =>
      cases hword
  | cons first rest =>
      rw [List.map_cons, List.cons.injEq] at hword
      -- the first letter is neither a sign nor a digit nor the point
      have hother : ∀ {c : Char}, c.toLower ≠ 'n' → first ≠ c := by
        rintro c hc rfl
        exact hc hword.1
      have hdigit : first.isDigit = false := by
        by_contra hdigit
        rw [Bool.not_eq_false] at hdigit
        have hfirst := hword.1
        rw [toLower_of_isDigit hdigit] at hfirst
        rw [hfirst] at hdigit
        cases hdigit
      have hsplit : splitSign (first :: rest) = (false, first :: rest) := by
        rw [splitSign]
        · rintro tail ⟨⟩
          exact hother (by decide) rfl
        · rintro tail ⟨⟩
          exact hother (by decide) rfl
      have hdecimal : decimal? (first :: rest) = none := by
        rw [decimal?, List.takeWhile_cons_of_neg (by simp [hdigit]),
          List.dropWhile_cons_of_neg (by simp [hdigit])]
        have hpoint : first ≠ '.' := hother (by decide)
        split
        rename_i hpair
        split at hpair
        · rename_i hmore
          exact absurd (List.cons.inj hmore).1 hpoint
        · cases hpair
          rfl
      have hall := hsign.split hsplit
      refine ⟨hall, ?_⟩
      rw [parse?, hall]
      simp only [hdecimal, Option.map_none]

/-- Only words are numerals of what is not a number. -/
theorem ofChars?_eq_nan_iff {cs : List Char} : ofChars? cs = some .nan ↔ SpellsNaN cs := by
  constructor
  · intro h
    rw [ofChars?] at h
    split at h
    · exact absurd (Option.some.inj h) (Binary64.ofDecimal_ne_nan _ _ _)
    · cases hsplit : splitSign cs with
      | mk negative rest =>
          rw [word?, hsplit] at h
          obtain ⟨sign, hsign, rfl⟩ := exists_sign hsplit
          dsimp only at h
          split at h
          · cases h
          · split at h
            · rename_i hword
              refine .intro hsign ?_
              rw [← String.toList_ofList (l := rest.map Char.toLower), hword]
              rfl
            · cases h
  · rintro ⟨hsign, hword⟩
    obtain ⟨hsplit, hparse⟩ := parse?_of_spellsNaN hsign hword
    rw [ofChars?, hparse]
    simp only [word?, hsplit, hword]
    rfl

end Numeral
end EventRules
