import EventRules.Number.Shortest
import EventRules.Proofs.Number.Nearest

/-!
# Decimal — decimals are rounded by their value

The double of a decimal is the one next to its value.  Decimals that are too large or too small for the
format are settled by the number of their digits; that is only a shortcut, and so two decimals of one
value, written with more or fewer zeros, have one double.

* `Decimal.value` — the rational that a decimal stands for;
* `Decimal.value_bounds` — the powers of ten around it;
* `Binary64.ofDecimal_eq_finite` — the double that it is rounded to.
-/

namespace EventRules

namespace Decimal

variable {d : Decimal}

def value (d : Decimal) : ℚ := d.significand * 10 ^ d.exponent

theorem value_nonneg (d : Decimal) : 0 ≤ d.value := by
  rw [value]
  positivity

theorem value_of_exponent_nonneg (h : 0 ≤ d.exponent) :
    d.value = ((d.significand * 10 ^ d.exponent.toNat : ℕ) : ℚ) := by
  obtain ⟨e, he⟩ := Int.eq_ofNat_of_zero_le h
  rw [value, he]
  simp

theorem value_of_exponent_neg (h : d.exponent < 0) :
    d.value = (d.significand : ℚ) / ((10 ^ (-d.exponent).toNat : ℕ) : ℚ) := by
  obtain ⟨e, he⟩ := Int.eq_ofNat_of_zero_le (by omega : 0 ≤ -d.exponent)
  have hexponent : d.exponent = -(e : ℤ) := by omega
  rw [value, he, hexponent, zpow_neg, div_eq_mul_inv]
  simp

/-- The exponent of the least power of ten above a decimal. -/
def magnitude (d : Decimal) : ℤ := (Nat.toDigits 10 d.significand).length + d.exponent

/-- The number of digits gives the powers of ten on both sides of a significand. -/
theorem significand_bounds {n : ℕ} (hpos : n ≠ 0) :
    10 ^ ((Nat.toDigits 10 n).length - 1) ≤ n ∧ n < 10 ^ (Nat.toDigits 10 n).length := by
  have hten : 1 < 10 := by decide
  have hlength : 0 < (Nat.toDigits 10 n).length := List.length_pos_iff.2 Nat.toDigits_ne_nil
  refine ⟨?_, (Nat.length_toDigits_le_iff hten hlength).1 le_rfl⟩
  by_cases hone : (Nat.toDigits 10 n).length - 1 = 0
  · rw [hone]
    exact Nat.one_le_iff_ne_zero.2 hpos
  · by_contra hless
    have := (Nat.length_toDigits_le_iff hten (Nat.pos_of_ne_zero hone)).2 (not_le.1 hless)
    omega

theorem value_bounds (hpos : d.significand ≠ 0) :
    10 ^ (d.magnitude - 1) ≤ d.value ∧ d.value < 10 ^ d.magnitude := by
  obtain ⟨hlower, hupper⟩ := significand_bounds hpos
  have hlength : 0 < (Nat.toDigits 10 d.significand).length :=
    List.length_pos_iff.2 Nat.toDigits_ne_nil
  have hten : (10 : ℚ) ≠ 0 := by norm_num
  have hpower : (0 : ℚ) < 10 ^ d.exponent := by positivity
  constructor
  · calc
      (10 : ℚ) ^ (d.magnitude - 1)
          = 10 ^ ((Nat.toDigits 10 d.significand).length - 1) * 10 ^ d.exponent := by
            rw [← zpow_natCast, ← zpow_add₀ hten, magnitude]
            congr 1
            omega
      _ ≤ d.significand * 10 ^ d.exponent := by
            gcongr
            exact_mod_cast hlower
  · calc
      d.value < 10 ^ (Nat.toDigits 10 d.significand).length * 10 ^ d.exponent := by
            rw [value]
            gcongr
            exact_mod_cast hupper
      _ = 10 ^ d.magnitude := by
            rw [← zpow_natCast, ← zpow_add₀ hten, magnitude]

theorem pow_le_value {n : ℕ} (hpos : d.significand ≠ 0) (h : n < d.magnitude) :
    (10 : ℚ) ^ n ≤ d.value := by
  calc
    (10 : ℚ) ^ n = 10 ^ (n : ℤ) := (zpow_natCast 10 n).symm
    _ ≤ 10 ^ (d.magnitude - 1) := zpow_le_zpow_right₀ (by norm_num) (by omega)
    _ ≤ d.value := (value_bounds hpos).1

theorem value_mul_pow_lt {n : ℕ} (hpos : d.significand ≠ 0) (h : d.magnitude ≤ -n) :
    d.value * 10 ^ n < 1 := by
  have hpower : (0 : ℚ) < 10 ^ n := by positivity
  rw [← lt_div_iff₀ hpower]
  calc
    d.value < 10 ^ d.magnitude := (value_bounds hpos).2
    _ ≤ 10 ^ (-(n : ℤ)) := zpow_le_zpow_right₀ (by norm_num) h
    _ = 1 / 10 ^ n := by rw [zpow_neg, zpow_natCast, one_div]

end Decimal

namespace Finite64

theorem unitsPerOne_pos : 0 < unitsPerOne := by decide +kernel

theorem unitsLimit_le_tenPow : unitsLimit ≤ 10 ^ 310 * unitsPerOne := by decide +kernel

theorem unitsPerOne_lt_tenPow : 2 * unitsPerOne < 10 ^ 330 := by decide +kernel

/-- Beyond the doubles nothing is rounded to one. -/
theorem not_roundsTo_of_large {v : ℚ} (h : (unitsLimit : ℚ) ≤ v) (x : Finite64) :
    ¬ RoundsTo v x.units := by
  intro hrounds
  have hless := x.units_lt
  rw [unitsLimit, show 2098 = 52 + 2046 from rfl] at h hless
  have hle := hrounds.pow_le h
  omega

/-- What is rounded to nothing is a zero. -/
theorem zero_of_roundsTo {v : ℚ} (hnonneg : 0 ≤ v) (hless : v < 1 / 2) {x : Finite64}
    (h : RoundsTo v x.units) : zero x.negative = x := by
  have hunits : x.units = 0 := h.unique (.zero_of_lt hnonneg hless)
  apply eq_of_units
  · rfl
  · rw [hunits, units_eq]
    exact Nat.zero_mul _

end Finite64

namespace Binary64

open Finite64 in
/-- A decimal becomes the double that its value is rounded to. -/
theorem ofDecimal_eq_finite {x : Finite64} {d : Decimal}
    (h : RoundsTo (d.value * unitsPerOne) x.units) :
    ofDecimal x.negative d.significand d.exponent = .finite x := by
  have hunit : (0 : ℚ) < unitsPerOne := Nat.cast_pos.2 unitsPerOne_pos
  have hnonneg : 0 ≤ d.value * unitsPerOne := mul_nonneg d.value_nonneg hunit.le
  rw [ofDecimal]
  split_ifs with hzero hlarge hsmall hexponent
  · have hvalue : d.value * unitsPerOne = 0 := by simp [Decimal.value, hzero]
    rw [zero_of_roundsTo hnonneg (by rw [hvalue]; norm_num) h]
  -- so many digits that the value is beyond the doubles
  · refine absurd h (not_roundsTo_of_large ?_ x)
    have hvalue : (10 : ℚ) ^ 310 ≤ d.value := Decimal.pow_le_value hzero hlarge
    calc
      (unitsLimit : ℚ) ≤ ((10 ^ 310 * unitsPerOne : ℕ) : ℚ) := Nat.cast_le.2 unitsLimit_le_tenPow
      _ = 10 ^ 310 * unitsPerOne := by rw [Nat.cast_mul, Nat.cast_pow, Nat.cast_ofNat]
      _ ≤ d.value * unitsPerOne := mul_le_mul_of_nonneg_right hvalue hunit.le
  -- so many zeros that it is below half a unit
  · refine congrArg _ (zero_of_roundsTo hnonneg ?_ h)
    have hvalue : d.value * 10 ^ 330 < 1 := Decimal.value_mul_pow_lt hzero hsmall.le
    have hpower : (2 : ℚ) * unitsPerOne ≤ 10 ^ 330 := by
      calc
        (2 : ℚ) * unitsPerOne = ((2 * unitsPerOne : ℕ) : ℚ) := by
          rw [Nat.cast_mul, Nat.cast_ofNat]
        _ ≤ ((10 ^ 330 : ℕ) : ℚ) := Nat.cast_le.2 unitsPerOne_lt_tenPow.le
        _ = 10 ^ 330 := by rw [Nat.cast_pow, Nat.cast_ofNat]
    -- as a variable, so that no step computes the power
    generalize (10 : ℚ) ^ 330 = power at hvalue hpower
    have hscaled := mul_le_mul_of_nonneg_left hpower d.value_nonneg
    linarith
  · have hvalue : d.value * unitsPerOne =
        ((d.significand * 10 ^ d.exponent.toNat * unitsPerOne : ℕ) : ℚ) / (1 : ℕ) := by
      rw [Decimal.value_of_exponent_nonneg hexponent, Nat.cast_one, div_one, ← Nat.cast_mul]
    exact (ofUnits_eq_finite_iff one_pos).2 ⟨rfl, hvalue ▸ h⟩
  · have hvalue : d.value * unitsPerOne =
        ((d.significand * unitsPerOne : ℕ) : ℚ) / ((10 ^ (-d.exponent).toNat : ℕ) : ℚ) := by
      rw [Decimal.value_of_exponent_neg (not_le.1 hexponent), div_mul_eq_mul_div, ← Nat.cast_mul]
    have hden : 0 < 10 ^ (-d.exponent).toNat := by positivity
    exact (ofUnits_eq_finite_iff hden).2 ⟨rfl, hvalue ▸ h⟩

end Binary64

end EventRules
