import EventRules.Proofs.Number.Integer
import EventRules.Proofs.Rule.Comparison

/-!
# Integers — comparison by value, after rounding

An integer may be given as a number or spelled by a text.  Either way it is compared by its double,
so the six comparisons are those of the integers next to the given ones that a double can hold.  They
are the comparisons of the integers themselves unless two different ones share a double.

* `Json.Denotes` — the values that stand for an integer;
* `Operator.ComparesAs` — all six comparisons of two values are those of two integers;
* `Operator.integers_compare_rounded` — which integers are compared.
-/

namespace EventRules

namespace Json

/-- The number `i`, or a text that spells it between blanks. -/
inductive Denotes : Json → ℤ → Prop
  | number {i : ℤ} (inRange : Number.InRange i) : Denotes (.number (.integer i inRange)) i
  | text {s : String} {i : ℤ} : Numeral.SpellsInt (Text.trimChars s.toList) i →
      Denotes (.string s) i

theorem Denotes.number? {a : Json} {i : ℤ} (h : a.Denotes i) (hrange : Number.InRange i) :
    ∃ x, a.number? = some x ∧ x.IsInt (nearestInt i) := by
  cases h with
  | number inRange =>
      exact ⟨_, rfl, Binary64.isInt_ofInt inRange⟩
  | text hspells =>
      exact Numeral.isInt_of_spellsInt hspells hrange

end Json

namespace Operator

/-- The comparisons of two values are those of the integers `i` and `j`. -/
structure ComparesAs (a b : Json) (i j : ℤ) : Prop where
  gt : gt.holds a b = true ↔ i > j
  gte : gte.holds a b = true ↔ i ≥ j
  lt : lt.holds a b = true ↔ i < j
  lte : lte.holds a b = true ↔ i ≤ j
  eq : eq.holds a b = true ↔ i = j
  neq : neq.holds a b = true ↔ i ≠ j

variable {a b : Json} {i j : ℤ}

theorem comparesAs_of_isInt {x y : Binary64} (ha : a.number? = some x) (hb : b.number? = some y)
    (hx : x.IsInt i) (hy : y.IsInt j) : ComparesAs a b i j := by
  have horder : a.order? b = some (compare i j) := by
    rw [Json.order?_of_numbers ha hb, Binary64.compare?_of_isInt hx hy]
  have hequal : eq.holds a b = true ↔ i = j := by
    rw [holds, Json.looselyEqual_of_numbers ha hb, Binary64.compare?_of_isInt hx hy, beq_iff_eq,
      Option.some.injEq, compare_eq_iff_eq]
  constructor
  · rw [gt_iff, horder, Option.some.injEq, compare_gt_iff_gt]
  · rw [gte_iff, horder, Option.some.injEq, Option.some.injEq, compare_gt_iff_gt,
      compare_eq_iff_eq]
    omega
  · rw [lt_iff, horder, Option.some.injEq, compare_lt_iff_lt]
  · rw [lte_iff, horder, Option.some.injEq, Option.some.injEq, compare_lt_iff_lt,
      compare_eq_iff_eq]
    omega
  · exact hequal
  · rw [ne_eq, ← hequal]
    simp [holds]

/-- Rounding keeps the comparisons of two integers exactly if it keeps them apart. -/
theorem comparesAs_nearest_iff (h : ComparesAs a b (nearestInt i) (nearestInt j)) :
    ComparesAs a b i j ↔ (nearestInt i = nearestInt j → i = j) := by
  constructor
  · intro hvalue hnearest
    exact hvalue.eq.1 (h.eq.2 hnearest)
  · intro hapart
    -- rounding keeps `≤` both ways, so with `hapart` it keeps `<` and `=`
    have hup : i ≤ j → nearestInt i ≤ nearestInt j := nearestInt_mono
    have hdown : j ≤ i → nearestInt j ≤ nearestInt i := nearestInt_mono
    have hsame : i = j → nearestInt i = nearestInt j := congrArg nearestInt
    constructor
    · rw [h.gt]
      omega
    · rw [h.gte]
      omega
    · rw [h.lt]
      omega
    · rw [h.lte]
      omega
    · rw [h.eq]
      omega
    · rw [h.neq]
      omega

/-- The comparisons of two integers, numbers or spelled ones, are those of the integers next to them
that a double can hold.  They are those of the integers themselves exactly if these are not two with
one double, and so if one of them is below `2 ^ 53`. -/
theorem integers_compare_rounded (ha : a.Denotes i) (hb : b.Denotes j)
    (hi : Number.InRange i) (hj : Number.InRange j) :
    ComparesAs a b (nearestInt i) (nearestInt j) ∧
    (ComparesAs a b i j ↔ (nearestInt i = nearestInt j → i = j)) ∧
    (i.natAbs < 2 ^ 53 ∨ j.natAbs < 2 ^ 53 → ComparesAs a b i j) := by
  obtain ⟨x, hax, hx⟩ := ha.number? hi
  obtain ⟨y, hby, hy⟩ := hb.number? hj
  have hnearest := comparesAs_of_isInt hax hby hx hy
  have hvalue := comparesAs_nearest_iff hnearest
  refine ⟨hnearest, hvalue, fun hsmall => hvalue.2 fun hsame => ?_⟩
  rcases hsmall with hsmall | hsmall
  · exact eq_of_nearestInt_eq hsame hsmall
  · exact (eq_of_nearestInt_eq hsame.symm hsmall).symm

/-- The largest integer of all beside one that a text spells with zeros and blanks. -/
theorem largest_beside_spelled :
    Json.Denotes (.number (.integer 18446744073709551615 (by decide))) 18446744073709551615 ∧
    Json.Denotes (.string " -0042 ") (-42) ∧
    Number.InRange 18446744073709551615 ∧ Number.InRange (-42) ∧
    ComparesAs (.number (.integer 18446744073709551615 (by decide))) (.string " -0042 ")
      18446744073709551615 (-42) := by
  have hlarge : Number.InRange 18446744073709551615 := by decide
  have hsmall : Number.InRange (-42) := by decide
  have hdigits : AllDigits ['0', '0', '4', '2'] :=
    (AllDigits.replicate_zero 2).append (AllDigits.toDigits 42)
  have hspelled : Json.Denotes (.string " -0042 ") (-42) :=
    .text (.intro .minus (List.cons_ne_nil '0' ['0', '4', '2']) hdigits)
  have h := integers_compare_rounded (.number hlarge) hspelled hlarge hsmall
  exact ⟨.number hlarge, hspelled, hlarge, hsmall, h.2.2 (.inr (by decide))⟩

/-- The first two integers that share a double are equal to each other. -/
theorem neighbours_compare_equal :
    ¬ ComparesAs (.number (.integer 9007199254740993 (by decide)))
      (.number (.integer 9007199254740992 (by decide))) 9007199254740993 9007199254740992 := by
  intro h
  have hequal : eq.holds (.number (.integer 9007199254740993 (by decide)))
      (.number (.integer 9007199254740992 (by decide))) = true := by decide +kernel
  exact absurd (h.eq.1 hequal) (by decide)

end Operator
end EventRules
