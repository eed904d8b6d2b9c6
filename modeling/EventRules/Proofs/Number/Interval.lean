import EventRules.Number.Shortest
import EventRules.Proofs.Number.Nearest

/-!
# Interval — the rationals that are rounded to a double

The interval that is kept for a double is the set of all that is rounded to it, its ends included where
the mantissa is even.  Below a power of two it is half as wide as above, since the doubles lie closer
there.

* `Finite64.Interval.Has` — the interval as a set of rationals;
* `Finite64.Interval.contains_iff` — that the test for a ratio decides it;
* `Finite64.roundsTo_of_has` — what lies in the interval is rounded to the double.
-/

namespace EventRules
namespace Finite64

/-! ## The interval -/

namespace Interval

/-- So many quarters of a unit lie in the interval; its ends do if it is closed. -/
structure Has (i : Interval) (v : ℚ) : Prop where
  lower : i.low ≤ v
  upper : v ≤ i.high
  closed_of_end : v = i.low ∨ v = i.high → i.closed = true

variable {i : Interval} {v : ℚ}

theorem Has.of_inside (hlower : i.low < v) (hupper : v < i.high) : i.Has v where
  lower := hlower.le
  upper := hupper.le
  closed_of_end := by
    rintro (h | h)
    · exact absurd h hlower.ne'
    · exact absurd h hupper.ne

theorem contains_iff {num den : ℕ} (hden : 0 < den) :
    i.contains num den = true ↔ i.Has (num / den) := by
  have hden' : (0 : ℚ) < den := by exact_mod_cast hden
  have hle : ∀ a : ℕ, a * den ≤ num ↔ (a : ℚ) ≤ num / den := by
    intro a
    rw [le_div_iff₀ hden']
    exact_mod_cast Iff.rfl
  have hge : ∀ a : ℕ, num ≤ a * den ↔ (num : ℚ) / den ≤ a := by
    intro a
    rw [div_le_iff₀ hden']
    exact_mod_cast Iff.rfl
  have hlt : ∀ a : ℕ, a * den < num ↔ (a : ℚ) < num / den := by
    intro a
    rw [lt_div_iff₀ hden']
    exact_mod_cast Iff.rfl
  have hgt : ∀ a : ℕ, num < a * den ↔ (num : ℚ) / den < a := by
    intro a
    rw [div_lt_iff₀ hden']
    exact_mod_cast Iff.rfl
  rw [contains]
  by_cases hclosed : i.closed = true
  · rw [if_pos hclosed, Bool.and_eq_true, decide_eq_true_iff, decide_eq_true_iff, hle, hge]
    constructor
    · rintro ⟨hlower, hupper⟩
      exact ⟨hlower, hupper, fun _ => hclosed⟩
    · rintro ⟨hlower, hupper, -⟩
      exact ⟨hlower, hupper⟩
  · rw [if_neg hclosed, Bool.and_eq_true, decide_eq_true_iff, decide_eq_true_iff, hlt, hgt]
    constructor
    · rintro ⟨hlower, hupper⟩
      exact .of_inside hlower hupper
    · rintro ⟨hlower, hupper, hend⟩
      exact ⟨lt_of_le_of_ne hlower fun h => hclosed (hend (.inl h.symm)),
        lt_of_le_of_ne hupper fun h => hclosed (hend (.inr h))⟩

end Interval

/-- How far the interval reaches below the value, in quarters of the step. -/
def quartersBelow (x : Finite64) : ℕ := if x.mantissa = leastNormal ∧ 0 < x.scale then 1 else 2

theorem interval_value (x : Finite64) : (x.interval.value : ℚ) = 4 * x.mantissa * 2 ^ x.scale := by
  rw [interval, units_eq]
  push_cast
  ring

theorem interval_high (x : Finite64) :
    (x.interval.high : ℚ) = (4 * x.mantissa + 2) * 2 ^ x.scale := by
  rw [interval, units_eq, Nat.one_shiftLeft]
  push_cast
  ring

theorem interval_low {x : Finite64} (hpos : x.mantissa ≠ 0) :
    (x.interval.low : ℚ) = (4 * x.mantissa - x.quartersBelow) * 2 ^ x.scale := by
  have hbelow : x.quartersBelow ≤ 4 * x.mantissa := by
    rw [quartersBelow]
    split <;> omega
  have hlow : x.interval.low = (4 * x.mantissa - x.quartersBelow) * 2 ^ x.scale := by
    rw [Nat.sub_mul, quartersBelow, interval, units_eq, Nat.one_shiftLeft]
    simp only
    split
    · rw [Nat.one_mul, Nat.mul_assoc]
    · rw [Nat.mul_assoc]
  rw [hlow]
  push_cast [hbelow]
  ring

/-- The interval in steps of the double's scale. -/
theorem steps_of_has {x : Finite64} (hpos : x.mantissa ≠ 0) {w : ℚ}
    (h : x.interval.Has (4 * (w * 2 ^ x.scale))) :
    x.mantissa - x.quartersBelow / 4 ≤ w ∧ w ≤ x.mantissa + 1 / 2 ∧
      (w = x.mantissa - x.quartersBelow / 4 ∨ w = x.mantissa + 1 / 2 → x.mantissa % 2 = 0) := by
  obtain ⟨hlower, hupper, hend⟩ := h
  have hclosed : x.interval.closed = true ↔ x.mantissa % 2 = 0 := beq_iff_eq
  have hpower : (0 : ℚ) < 2 ^ x.scale := by positivity
  rw [hclosed, interval_low hpos, interval_high] at hend
  rw [interval_low hpos, ← mul_assoc, mul_le_mul_iff_left₀ hpower] at hlower
  rw [interval_high, ← mul_assoc, mul_le_mul_iff_left₀ hpower] at hupper
  refine ⟨by linarith, by linarith, ?_⟩
  rintro (rfl | rfl)
  · exact hend (.inl (by ring))
  · exact hend (.inr (by ring))

/-- Half a step around the mantissa, on the scale of the double. -/
theorem roundsTo_of_same_scale {x : Finite64} {w : ℚ} (hsame : x.scale = 0 ∨ 2 ^ 52 ≤ w)
    (hlower : x.mantissa - 1 / 2 ≤ w) (hupper : w ≤ x.mantissa + 1 / 2)
    (heven : w = x.mantissa - 1 / 2 ∨ w = x.mantissa + 1 / 2 → x.mantissa % 2 = 0) :
    RoundsTo (w * 2 ^ x.scale) x.units := by
  obtain ⟨hlimit, -, -⟩ := x.canonical
  have hmantissa : (x.mantissa : ℚ) + 1 ≤ 2 ^ 53 := by exact_mod_cast hlimit
  have hpower : (0 : ℚ) < 2 ^ x.scale := by positivity
  have hscale : HasScale (w * 2 ^ x.scale) x.scale := by
    constructor
    · rw [add_comm, pow_add, mul_lt_mul_iff_left₀ hpower]
      linarith
    · refine hsame.imp_right fun habove => ?_
      rw [add_comm, pow_add]
      exact mul_le_mul_of_nonneg_right habove hpower.le
  rw [units_eq]
  refine .intro hscale ?_
  rw [mul_div_cancel_right₀ _ hpower.ne']
  exact ⟨hlower, hupper, heven⟩

/-- A quarter of a step below a power of two, where the steps are half as long. -/
theorem roundsTo_of_below_power {w : ℚ} (t : ℕ) (hlower : 2 ^ 52 - 1 / 4 ≤ w) (hbelow : w < 2 ^ 52) :
    RoundsTo (2 * w * 2 ^ t) (2 ^ 53 * 2 ^ t) := by
  have hpower : (0 : ℚ) < 2 ^ t := by positivity
  norm_num at hlower hbelow
  have hscale : HasScale (2 * w * 2 ^ t) t := by
    constructor
    · rw [add_comm, pow_add, mul_lt_mul_iff_left₀ hpower]
      linarith
    · right
      rw [add_comm, pow_add, mul_le_mul_iff_left₀ hpower]
      linarith
  refine .intro hscale ?_
  rw [mul_div_cancel_right₀ _ hpower.ne']
  refine .of_even (by norm_num) ?_ ?_
  · push_cast
    linarith
  · push_cast
    linarith

/-- The interval of a double is rounded to it. -/
theorem roundsTo_of_has {x : Finite64} (hpos : x.mantissa ≠ 0) {v : ℚ}
    (h : x.interval.Has (4 * v)) : RoundsTo v x.units := by
  obtain ⟨-, hnormal, -⟩ := x.canonical
  obtain ⟨w, rfl⟩ : ∃ w, v = w * 2 ^ x.scale := ⟨v / 2 ^ x.scale, by field_simp⟩
  obtain ⟨hlower, hupper, hend⟩ := steps_of_has hpos h
  have hquarters : (x.quartersBelow : ℚ) ≤ 2 := by
    rw [quartersBelow]
    split <;> norm_num
  by_cases hsame : x.scale = 0 ∨ 2 ^ 52 ≤ w
  · refine roundsTo_of_same_scale hsame (by linarith) hupper ?_
    rintro (htie | htie)
    · exact hend (.inl (by linarith))
    · exact hend (.inr htie)
  -- the value is below the power of two that the double is
  · obtain ⟨hscaled, hbelow⟩ : x.scale ≠ 0 ∧ w < 2 ^ 52 := by
      simpa only [not_or, not_le] using hsame
    obtain ⟨t, ht⟩ := Nat.exists_eq_succ_of_ne_zero hscaled
    have hleast : x.mantissa = leastNormal := by
      have hle : (x.mantissa : ℚ) < 2 ^ 52 + 1 := by linarith
      have hle' : x.mantissa < 2 ^ 52 + 1 := by exact_mod_cast hle
      exact le_antisymm (Nat.le_of_lt_succ hle') (hnormal.resolve_right hscaled)
    have hquarter : x.quartersBelow = 1 := if_pos ⟨hleast, Nat.pos_of_ne_zero hscaled⟩
    rw [hleast, hquarter] at hlower
    have hhalf : w * 2 ^ x.scale = 2 * w * 2 ^ t := by
      rw [ht, pow_succ]
      ring
    have hunits : x.units = 2 ^ 53 * 2 ^ t := by
      rw [units_eq, hleast, ht, pow_succ]
      ring
    rw [hhalf, hunits]
    exact roundsTo_of_below_power t (by norm_num at hlower ⊢; linarith) hbelow

end Finite64
end EventRules
