import Mathlib.Order.Compare
import EventRules.Rule.Operator

/-!
# Comparison — the operators fit together

Values that have numbers are compared by them and two texts by their code points; all other pairs have
no order.  Turning a pair around turns its order around, and equality agrees with the order wherever
there is one.

* `Binary64.compare?_swap`, `Json.order?_swap` — pairs turned around;
* `Json.HasOrder` — the pairs of kinds that can have an order;
* `Json.looselyEqual_iff_order?` — equality beside the order;
* `Operator.comparisons_fit` — the laws of the six operators.
-/

namespace EventRules

namespace Binary64

theorem compare?_swap (x y : Binary64) : y.compare? x = (x.compare? y).map Ordering.swap := by
  cases x with
  | nan =>
      cases y <;> rfl
  | infinity s =>
      cases y with
      | nan =>
          rfl
      | infinity t =>
          exact congrArg some Std.OrientedCmp.eq_swap
      | finite y =>
          cases s <;> rfl
  | finite x =>
      cases y with
      | nan =>
          rfl
      | infinity t =>
          cases t <;> rfl
      | finite y =>
          exact congrArg some Std.OrientedCmp.eq_swap

/-- Every double but `nan` is as large as itself. -/
theorem compare?_self {x : Binary64} (h : x ≠ .nan) : x.compare? x = some .eq := by
  cases x with
  | nan =>
      exact absurd rfl h
  | infinity s =>
      exact congrArg some Std.ReflCmp.compare_self
  | finite x =>
      exact congrArg some Std.ReflCmp.compare_self

end Binary64

namespace Json

variable {a b : Json}

/-! ## Kinds -/

/-- The values that read as a number: numbers, booleans, and texts that are numerals when they are
trimmed. -/
inductive IsNumeric : Json → Prop
  | number (n : Number) : IsNumeric (.number n)
  | bool (b : Bool) : IsNumeric (.bool b)
  | text {s : String} {x : Binary64} :
      Numeral.ofChars? (Text.trimChars s.toList) = some x → IsNumeric (.string s)

theorem isNumeric_iff : a.IsNumeric ↔ ∃ x, a.number? = some x := by
  constructor
  · intro h
    cases h with
    | number n =>
        exact ⟨_, rfl⟩
    | bool b =>
        exact ⟨_, rfl⟩
    | text hx =>
        exact ⟨_, hx⟩
  · rintro ⟨x, hx⟩
    cases a with
    | number n =>
        exact .number n
    | bool b =>
        exact .bool b
    | string s =>
        exact .text hx
    | null | array _ | object _ =>
        cases hx

/-- Two values that both read as numbers, or two texts. -/
inductive HasOrder : Json → Json → Prop
  | numbers {a b : Json} : a.IsNumeric → b.IsNumeric → HasOrder a b
  | texts (s t : String) : HasOrder (.string s) (.string t)

/-! ## The order -/

theorem order?_of_numbers {x y : Binary64} (ha : a.number? = some x) (hb : b.number? = some y) :
    a.order? b = x.compare? y := by
  simp only [order?, ha, hb]

theorem looselyEqual_of_numbers {x y : Binary64} (ha : a.number? = some x)
    (hb : b.number? = some y) : a.looselyEqual b = (x.compare? y == some .eq) := by
  simp only [looselyEqual, ha, hb]

/-- Texts are compared by their characters, unless both are numerals. -/
theorem order?_of_texts {s t : String}
    (h : ¬ (IsNumeric (.string s) ∧ IsNumeric (.string t))) :
    order? (.string s) (.string t) = some (compare s t) := by
  cases hs : number? (.string s) with
  | none =>
      simp only [order?, hs]
  | some x =>
      cases ht : number? (.string t) with
      | none =>
          simp only [order?, hs, ht]
      | some y =>
          exact absurd ⟨isNumeric_iff.2 ⟨x, hs⟩, isNumeric_iff.2 ⟨y, ht⟩⟩ h

theorem looselyEqual_of_not_numbers (h : ¬ (a.IsNumeric ∧ b.IsNumeric)) :
    a.looselyEqual b = (a.text == b.text) := by
  cases ha : a.number? with
  | none =>
      simp only [looselyEqual, ha]
  | some x =>
      cases hb : b.number? with
      | none =>
          simp only [looselyEqual, ha, hb]
      | some y =>
          exact absurd ⟨isNumeric_iff.2 ⟨x, ha⟩, isNumeric_iff.2 ⟨y, hb⟩⟩ h

theorem order?_of_not_hasOrder (h : ¬ HasOrder a b) : a.order? b = none := by
  fun_cases Json.order? a b with
  | case1 _ _ x y hb ha =>
      exact absurd (.numbers (isNumeric_iff.2 ⟨x, ha⟩) (isNumeric_iff.2 ⟨y, hb⟩)) h
  | case2 s t =>
      exact absurd (.texts s t) h
  | case3 =>
      rfl

theorem hasOrder_comm : HasOrder a b ↔ HasOrder b a := by
  constructor
  · rintro (⟨ha, hb⟩ | ⟨s, t⟩)
    · exact .numbers hb ha
    · exact .texts t s
  · rintro (⟨hb, ha⟩ | ⟨s, t⟩)
    · exact .numbers ha hb
    · exact .texts t s

theorem order?_swap (a b : Json) : b.order? a = (a.order? b).map Ordering.swap := by
  -- numbers first, since two texts that are numerals are compared as numbers
  by_cases hnumbers : a.IsNumeric ∧ b.IsNumeric
  · obtain ⟨x, hx⟩ := isNumeric_iff.1 hnumbers.1
    obtain ⟨y, hy⟩ := isNumeric_iff.1 hnumbers.2
    rw [order?_of_numbers hx hy, order?_of_numbers hy hx, Binary64.compare?_swap]
  · by_cases horder : HasOrder a b
    · cases horder with
      | numbers ha hb =>
          exact absurd ⟨ha, hb⟩ hnumbers
      | texts s t =>
          rw [order?_of_texts hnumbers, order?_of_texts (mt And.symm hnumbers)]
          exact congrArg some Std.OrientedCmp.eq_swap
    · rw [order?_of_not_hasOrder horder, order?_of_not_hasOrder (mt hasOrder_comm.2 horder)]
      rfl

/-! ## Equality -/

theorem looselyEqual_comm (a b : Json) : a.looselyEqual b = b.looselyEqual a := by
  by_cases hnumbers : a.IsNumeric ∧ b.IsNumeric
  · obtain ⟨x, hx⟩ := isNumeric_iff.1 hnumbers.1
    obtain ⟨y, hy⟩ := isNumeric_iff.1 hnumbers.2
    rw [looselyEqual_of_numbers hx hy, looselyEqual_of_numbers hy hx, Binary64.compare?_swap x y]
    -- swapping an order never makes an equality of it, nor of an equality anything else
    cases x.compare? y with
    | none =>
        rfl
    | some order =>
        cases order <;> rfl
  · rw [looselyEqual_of_not_numbers hnumbers, looselyEqual_of_not_numbers (mt And.symm hnumbers)]
    exact Bool.beq_comm

/-- Where there can be an order, two values are equal exactly if the order says so. -/
theorem looselyEqual_of_hasOrder (h : HasOrder a b) :
    a.looselyEqual b = (a.order? b == some .eq) := by
  by_cases hnumbers : a.IsNumeric ∧ b.IsNumeric
  · obtain ⟨x, hx⟩ := isNumeric_iff.1 hnumbers.1
    obtain ⟨y, hy⟩ := isNumeric_iff.1 hnumbers.2
    rw [looselyEqual_of_numbers hx hy, order?_of_numbers hx hy]
  · cases h with
    | numbers ha hb =>
        exact absurd ⟨ha, hb⟩ hnumbers
    | texts s t =>
        rw [looselyEqual_of_not_numbers hnumbers, order?_of_texts hnumbers]
        have hsame : s = t ↔ compare s t = .eq := Std.LawfulEqCmp.compare_eq_iff_eq.symm
        rw [Bool.eq_iff_iff, beq_iff_eq, beq_iff_eq, Option.some.injEq]
        exact hsame

end Json

namespace Operator

variable {a b : Json}

theorem gt_iff : gt.holds a b = true ↔ a.order? b = some .gt := beq_iff_eq

theorem lt_iff : lt.holds a b = true ↔ a.order? b = some .lt := beq_iff_eq

theorem gte_iff : gte.holds a b = true ↔ a.order? b = some .gt ∨ a.order? b = some .eq := by
  rw [holds, Bool.or_eq_true, beq_iff_eq, beq_iff_eq]

theorem lte_iff : lte.holds a b = true ↔ a.order? b = some .lt ∨ a.order? b = some .eq := by
  rw [holds, Bool.or_eq_true, beq_iff_eq, beq_iff_eq]

theorem eq_iff_of_hasOrder (h : Json.HasOrder a b) :
    eq.holds a b = true ↔ a.order? b = some .eq := by
  rw [holds, Json.looselyEqual_of_hasOrder h, beq_iff_eq]

theorem hasOrder_of_order? {order : Ordering} (h : a.order? b = some order) :
    Json.HasOrder a b := by
  by_contra hnone
  rw [Json.order?_of_not_hasOrder hnone] at h
  cases h

theorem gt_eq_lt (a b : Json) : gt.holds a b = lt.holds b a := by
  rw [Bool.eq_iff_iff, gt_iff, lt_iff, Json.order?_swap a b]
  cases a.order? b with
  | none =>
      simp
  | some order =>
      cases order <;> simp

theorem gte_eq_lte (a b : Json) : gte.holds a b = lte.holds b a := by
  rw [Bool.eq_iff_iff, gte_iff, lte_iff, Json.order?_swap a b]
  cases a.order? b with
  | none =>
      simp
  | some order =>
      cases order <;> simp

/-- The comparisons fit together: a pair may be turned around, at most one of greater, less and equal
holds, and the others are made of these three where there can be an order and fail where there is none. -/
theorem comparisons_fit (a b : Json) :
    (gt.holds a b = lt.holds b a ∧ gte.holds a b = lte.holds b a ∧ eq.holds a b = eq.holds b a) ∧
    (¬ (gt.holds a b = true ∧ lt.holds a b = true) ∧
      ¬ (gt.holds a b = true ∧ eq.holds a b = true) ∧
      ¬ (lt.holds a b = true ∧ eq.holds a b = true)) ∧
    (Json.HasOrder a b →
      (gte.holds a b = true ↔ gt.holds a b = true ∨ eq.holds a b = true) ∧
      (lte.holds a b = true ↔ lt.holds a b = true ∨ eq.holds a b = true)) ∧
    (¬ Json.HasOrder a b →
      gt.holds a b = false ∧ gte.holds a b = false ∧ lt.holds a b = false ∧
        lte.holds a b = false) := by
  refine ⟨⟨gt_eq_lt a b, gte_eq_lte a b, Json.looselyEqual_comm a b⟩, ⟨?_, ?_, ?_⟩, ?_, ?_⟩
  · rintro ⟨hgt, hlt⟩
    rw [gt_iff] at hgt
    rw [lt_iff, hgt] at hlt
    cases hlt
  · rintro ⟨hgt, heq⟩
    rw [gt_iff] at hgt
    rw [eq_iff_of_hasOrder (hasOrder_of_order? hgt), hgt] at heq
    cases heq
  · rintro ⟨hlt, heq⟩
    rw [lt_iff] at hlt
    rw [eq_iff_of_hasOrder (hasOrder_of_order? hlt), hlt] at heq
    cases heq
  · intro horder
    rw [gte_iff, lte_iff, gt_iff, lt_iff, eq_iff_of_hasOrder horder]
    exact ⟨Iff.rfl, Iff.rfl⟩
  · intro hnone
    have horder := Json.order?_of_not_hasOrder hnone
    simp only [holds, horder]
    decide

end Operator
end EventRules
