import EventRules.Proofs.Number.Decimal
import EventRules.Proofs.Number.Interval

/-!
# Shortest — the digits of a double read back

The digits that are found for a double lie in its interval.  The search does not come back empty: on the
grid of seventeen digits the step is so short that one of the two neighbours of the value lies inside.

* `Finite64.tenPow_decimalMagnitude_le` — the search begins at the first digit of the value;
* `Finite64.onGrid?_ne_none`, `Finite64.gridStep_seventeenth` — seventeen digits suffice;
* `Finite64.roundsTo_shortest` — what is found is rounded to the double.
-/

namespace EventRules
namespace Finite64

theorem unitsPerOne_cast_pos : (0 : ℚ) < unitsPerOne := Nat.cast_pos.2 unitsPerOne_pos

/-! ## One grid -/

/-- The step of the grid of multiples of `10 ^ exponent`, in quarters of a unit. -/
def gridStep (exponent : ℤ) : ℚ := 4 * unitsPerOne * 10 ^ exponent

theorem gridStep_pos (exponent : ℤ) : 0 < gridStep exponent :=
  mul_pos (mul_pos (by norm_num) unitsPerOne_cast_pos) (by positivity)

/-- The step as the quotient of natural numbers that the search computes with. -/
theorem gridStep_eq (exponent : ℤ) :
    gridStep exponent =
      ((4 * unitsPerOne * (if 0 ≤ exponent then Nat.pow 10 exponent.toNat else 1) : ℕ) : ℚ) /
        ((if 0 ≤ exponent then 1 else Nat.pow 10 (-exponent).toNat : ℕ) : ℚ) := by
  rw [gridStep]
  split_ifs with h
  · obtain ⟨e, rfl⟩ := Int.eq_ofNat_of_zero_le h
    simp
  · obtain ⟨e, he⟩ := Int.eq_ofNat_of_zero_le (by omega : 0 ≤ -exponent)
    have hexponent : exponent = -(e : ℤ) := by omega
    rw [he, hexponent, zpow_neg, ← div_eq_mul_inv]
    simp

/-- The search tests the two neighbours of the value on the grid: what it finds lies in the interval, and
it finds nothing only if neither does. -/
theorem onGrid?_neighbours (i : Interval) (exponent : ℤ) :
    ∃ lower : ℕ,
      lower * gridStep exponent ≤ i.value ∧ i.value < (lower + 1) * gridStep exponent ∧
      (∀ n, onGrid? i exponent = some n → i.Has (n * gridStep exponent)) ∧
      (onGrid? i exponent = none →
        (lower = 0 ∨ ¬ i.Has (lower * gridStep exponent)) ∧
        ¬ i.Has ((lower + 1) * gridStep exponent)) := by
  have hstep := gridStep_pos exponent
  have hquotient := gridStep_eq exponent
  rw [onGrid?]
  generalize hnum : 4 * unitsPerOne * (if 0 ≤ exponent then Nat.pow 10 exponent.toNat else 1) = num
    at hquotient ⊢
  generalize hden : (if 0 ≤ exponent then 1 else Nat.pow 10 (-exponent).toNat) = den
    at hquotient ⊢
  generalize gridStep exponent = step at hstep hquotient ⊢
  have hdenPos : 0 < den := by
    rw [← hden]
    split_ifs
    · exact one_pos
    · exact Nat.pow_pos (by decide)
  have hdenPos' : (0 : ℚ) < den := by exact_mod_cast hdenPos
  have hfits : ∀ n : ℕ, i.contains (n * num) den = true ↔ i.Has (n * step) := by
    intro n
    rw [Interval.contains_iff hdenPos, hquotient, Nat.cast_mul, mul_div_assoc]
  have hfloor : ⌊(i.value : ℚ) / step⌋₊ = i.value * den / num := by
    rw [hquotient, div_div_eq_mul_div, ← Nat.cast_mul, Nat.floor_div_eq_div]
  have hnonneg : (0 : ℚ) ≤ i.value / step := div_nonneg (Nat.cast_nonneg _) hstep.le
  generalize i.value * den / num = lower at hfloor ⊢
  have hlower : (lower : ℚ) ≤ i.value / step := hfloor ▸ Nat.floor_le hnonneg
  have hupper : (i.value : ℚ) / step < lower + 1 := hfloor ▸ Nat.lt_floor_add_one _
  rw [le_div_iff₀ hstep] at hlower
  rw [div_lt_iff₀ hstep] at hupper
  have hlowerFits : (lower != 0 && i.contains (lower * num) den) = true ↔
      lower ≠ 0 ∧ i.Has (lower * step) := by
    rw [Bool.and_eq_true, bne_iff_ne, hfits]
  have hupperFits : i.contains ((lower + 1) * num) den = true ↔ i.Has ((lower + 1) * step) := by
    rw [hfits, Nat.cast_add, Nat.cast_one]
  refine ⟨lower, hlower, hupper, ?_, ?_⟩
  · intro n hn
    split_ifs at hn with hboth hcloser hfarther heven hlow hup
    all_goals
      cases hn
    · exact (hlowerFits.1 (Bool.and_eq_true_iff.1 hboth).1).2
    · exact (hfits _).1 (Bool.and_eq_true_iff.1 hboth).2
    · exact (hlowerFits.1 (Bool.and_eq_true_iff.1 hboth).1).2
    · exact (hfits _).1 (Bool.and_eq_true_iff.1 hboth).2
    · exact (hlowerFits.1 hlow).2
    · exact (hfits _).1 hup
  · intro hnone
    split_ifs at hnone with hboth hcloser hfarther heven hlow hup
    rw [hlowerFits] at hlow
    rw [hupperFits] at hup
    exact ⟨Classical.not_and_iff_not_or_not.1 hlow |>.imp_left not_not.1, hup⟩

/-! ## Seventeen digits -/

/-- A step that is at most the value divided by `10 ^ 16` is so short that the nearer neighbour of the
value lies in the interval. -/
theorem has_of_near {x : Finite64} (hpos : x.mantissa ≠ 0) {step v : ℚ}
    (hstep : 10 ^ 16 * step ≤ x.interval.value) (hlower : x.interval.value - step / 2 ≤ v)
    (hupper : v ≤ x.interval.value + step / 2) : x.interval.Has v := by
  obtain ⟨hlimit, -, -⟩ := x.canonical
  have hpower : (0 : ℚ) < 2 ^ x.scale := by positivity
  have hmantissa : (x.mantissa : ℚ) + 1 ≤ 2 ^ 53 := by exact_mod_cast hlimit
  have hhigh := x.interval_high
  have hlow := interval_low hpos
  rw [x.interval_value] at hstep hlower hupper
  -- half a step is shorter than half the distance of the doubles, also below a power of two
  have hshort : step / 2 < x.quartersBelow * 2 ^ x.scale := by
    rw [quartersBelow]
    split_ifs with hleast
    · rw [hleast.1] at hstep
      push_cast at hstep ⊢
      linarith
    · push_cast
      nlinarith
  have htwo : (x.quartersBelow : ℚ) * 2 ^ x.scale ≤ 2 * 2 ^ x.scale := by
    apply mul_le_mul_of_nonneg_right _ hpower.le
    rw [quartersBelow]
    split <;> norm_num
  apply Interval.Has.of_inside
  · rw [hlow]
    linarith
  · rw [hhigh]
    linarith

/-- On a grid whose step is so short the search finds something. -/
theorem onGrid?_ne_none {x : Finite64} (hpos : x.mantissa ≠ 0) {exponent : ℤ}
    (hstep : 10 ^ 16 * gridStep exponent ≤ x.interval.value) :
    onGrid? x.interval exponent ≠ none := by
  intro hnone
  obtain ⟨lower, hlower, hupper, -, hmissed⟩ := onGrid?_neighbours x.interval exponent
  obtain ⟨hlow, hup⟩ := hmissed hnone
  have hpositive := gridStep_pos exponent
  by_cases hnearer : (x.interval.value : ℚ) - lower * gridStep exponent ≤ gridStep exponent / 2
  · refine hlow.elim (fun hzero => ?_) fun hoff => ?_
    · rw [hzero] at hupper
      push_cast at hupper
      linarith
    · exact hoff (has_of_near hpos hstep (by linarith) (by linarith))
  · exact hup (has_of_near hpos hstep (by linarith) (by linarith))

/-! ## The first digit -/

/-- The logarithm of two is more than `3 / 10`. -/
theorem tenPow_le_twoPow {j n : ℕ} (h : 10 * j ≤ 3 * n) : (10 : ℚ) ^ j ≤ 2 ^ n := by
  apply le_of_pow_le_pow_left₀ (n := 10) (by norm_num) (by positivity)
  calc
    ((10 : ℚ) ^ j) ^ 10 = 10 ^ (j * 10) := (pow_mul ..).symm
    _ ≤ 10 ^ (3 * n) := pow_le_pow_right₀ (by norm_num) (by omega)
    _ = (10 ^ 3) ^ n := pow_mul ..
    _ ≤ (2 ^ 10) ^ n := pow_le_pow_left₀ (by norm_num) (by norm_num) n
    _ = (2 ^ n) ^ 10 := by rw [← pow_mul, ← pow_mul, mul_comm]

/-- The logarithm of two is less than `16 / 53`. -/
theorem twoPow_le_tenPow {j n : ℕ} (h : 16 * n ≤ 53 * j) : (2 : ℚ) ^ n ≤ 10 ^ j := by
  apply le_of_pow_le_pow_left₀ (n := 53) (by norm_num) (by positivity)
  calc
    ((2 : ℚ) ^ n) ^ 53 = (2 ^ 53) ^ n := by rw [← pow_mul, ← pow_mul, mul_comm]
    _ ≤ (10 ^ 16) ^ n := pow_le_pow_left₀ (by norm_num) (by norm_num) n
    _ = 10 ^ (16 * n) := (pow_mul ..).symm
    _ ≤ 10 ^ (j * 53) := pow_le_pow_right₀ (by norm_num) (by omega)
    _ = (10 ^ j) ^ 53 := pow_mul ..

/-- The estimate of the number of digits is not more than one too high: `30103 / 100000` is a little more
than the logarithm of two. -/
theorem tenPow_guess_le {binary : ℤ} (hlower : -1074 ≤ binary) (hupper : binary ≤ 1023) :
    (10 : ℚ) ^ ((binary * 30103).fdiv 100000 - 2) ≤ 2 ^ binary := by
  rw [Int.fdiv_eq_ediv_of_nonneg _ (by norm_num)]
  rcases le_or_gt 0 binary with hsign | hsign
  · obtain ⟨n, rfl⟩ := Int.eq_ofNat_of_zero_le hsign
    rcases le_or_gt ((n : ℤ) * 30103 / 100000 - 2) 0 with hsmall | hlarge
    · calc
        (10 : ℚ) ^ ((n : ℤ) * 30103 / 100000 - 2) ≤ 1 :=
          zpow_le_one_of_nonpos₀ (by norm_num) hsmall
        _ ≤ 2 ^ (n : ℤ) := one_le_zpow₀ (by norm_num) hsign
    · obtain ⟨j, hj⟩ := Int.eq_ofNat_of_zero_le hlarge.le
      rw [hj, zpow_natCast, zpow_natCast]
      exact tenPow_le_twoPow (by omega)
  · obtain ⟨n, hn⟩ := Int.eq_ofNat_of_zero_le (by omega : 0 ≤ -binary)
    obtain ⟨j, hj⟩ := Int.eq_ofNat_of_zero_le (by omega : 0 ≤ -(binary * 30103 / 100000 - 2))
    rw [← neg_neg (binary * 30103 / 100000 - 2), hj, ← neg_neg binary, hn, zpow_neg, zpow_neg,
      zpow_natCast, zpow_natCast]
    exact inv_anti₀ (by positivity) (twoPow_le_tenPow (by omega))

theorem cast_one_shiftLeft (n : ℕ) : ((1 <<< n : ℕ) : ℚ) = 2 ^ (n : ℤ) := by
  rw [Nat.one_shiftLeft, Nat.cast_pow, Nat.cast_ofNat, zpow_natCast]

theorem tenPow_guess_le_units {x : Finite64} (hpos : x.mantissa ≠ 0) :
    unitsPerOne * (10 : ℚ) ^ ((((x.units.log2 : ℤ) - 1074) * 30103).fdiv 100000 - 2) ≤ x.units := by
  have hunits : x.units ≠ 0 := by
    rw [units_eq]
    exact Nat.mul_ne_zero hpos (Nat.two_pow_pos _).ne'
  have hlog : x.units.log2 < 53 + 2045 := log2_units_lt hunits x.canonical.2.2
  calc
    unitsPerOne * (10 : ℚ) ^ ((((x.units.log2 : ℤ) - 1074) * 30103).fdiv 100000 - 2)
        ≤ unitsPerOne * 2 ^ ((x.units.log2 : ℤ) - 1074) := by
          apply mul_le_mul_of_nonneg_left _ unitsPerOne_cast_pos.le
          exact tenPow_guess_le (by omega) (by omega)
    _ = ((2 ^ x.units.log2 : ℕ) : ℚ) := by
          rw [unitsPerOne, cast_one_shiftLeft, ← zpow_add₀ two_ne_zero, Nat.cast_pow,
            ← zpow_natCast, Nat.cast_ofNat]
          congr 1
          ring
    _ ≤ x.units := Nat.cast_le.2 (Nat.log2_self_le hunits)

theorem fits_iff (x : Finite64) (k : ℤ) :
    (if 0 ≤ k then decide (x.units < unitsPerOne * Nat.pow 10 k.toNat)
      else decide (x.units * Nat.pow 10 (-k).toNat < unitsPerOne)) = true ↔
    (x.units : ℚ) < unitsPerOne * 10 ^ k := by
  split_ifs with hsign
  · obtain ⟨n, rfl⟩ := Int.eq_ofNat_of_zero_le hsign
    rw [decide_eq_true_iff, zpow_natCast]
    exact_mod_cast Iff.rfl
  · obtain ⟨n, hn⟩ := Int.eq_ofNat_of_zero_le (by omega : 0 ≤ -k)
    have hk : k = -(n : ℤ) := by omega
    have hpower : (0 : ℚ) < 10 ^ n := by positivity
    rw [decide_eq_true_iff, hn, hk, zpow_neg, zpow_natCast, ← div_eq_mul_inv,
      lt_div_iff₀ hpower]
    exact_mod_cast Iff.rfl

/-- The first digit of the value is not zero at the place where the search begins. -/
theorem tenPow_decimalMagnitude_le {x : Finite64} (hpos : x.mantissa ≠ 0) :
    unitsPerOne * (10 : ℚ) ^ (x.decimalMagnitude - 1) ≤ x.units := by
  have hguess := tenPow_guess_le_units hpos
  rw [decimalMagnitude]
  generalize (((x.units.log2 : ℤ) - 1074) * 30103).fdiv 100000 = guess at hguess ⊢
  generalize hfits : (fun k : ℤ => if 0 ≤ k then decide (x.units < unitsPerOne * Nat.pow 10 k.toNat)
      else decide (x.units * Nat.pow 10 (-k).toNat < unitsPerOne)) = fits
  have hnot : ∀ k, fits k = false → unitsPerOne * (10 : ℚ) ^ k ≤ x.units := by
    intro k hk
    rw [← hfits] at hk
    exact not_lt.1 fun hless => Bool.false_ne_true (hk.symm.trans ((x.fits_iff k).2 hless))
  -- behind the first place there is one more digit, since the place before was refused
  simp only [List.find?_cons, List.find?_nil]
  cases hfirst : fits (guess - 1) with
  | true =>
      rwa [Option.getD_some, sub_sub, one_add_one_eq_two]
  | false =>
      cases hsecond : fits guess with
      | true =>
          exact hnot _ hfirst
      | false =>
          cases hthird : fits (guess + 1) with
          | true =>
              rw [Option.getD_some, add_sub_cancel_right]
              exact hnot _ hsecond
          | false =>
              cases hfourth : fits (guess + 2) with
              | true =>
                  rw [Option.getD_some, add_sub_assoc]
                  exact hnot _ hthird
              | false =>
                  rw [Option.getD_none, add_sub_assoc]
                  exact hnot _ hfourth

/-! ## The search -/

theorem value_dropZeros (n : ℕ) (d : Decimal) : (dropZeros n d).value = d.value := by
  induction n generalizing d with
  | zero =>
      rfl
  | succ n ih =>
      rw [dropZeros]
      split_ifs with hzero
      · have hten : (10 : ℚ) ≠ 0 := by norm_num
        have hdigit : (d.significand : ℚ) = 10 * (d.significand / 10 : ℕ) := by
          exact_mod_cast (by omega : d.significand = 10 * (d.significand / 10))
        rw [ih, Decimal.value, Decimal.value, hdigit, zpow_add_one₀ hten]
        ring
      · rfl

/-- The step of the grid of seventeen digits. -/
theorem gridStep_seventeenth {x : Finite64} (hpos : x.mantissa ≠ 0) :
    10 ^ 16 * gridStep (x.decimalMagnitude - (16 + 1 : ℕ)) ≤ x.interval.value := by
  have hten : (10 : ℚ) ≠ 0 := by norm_num
  have hexponent : x.decimalMagnitude - 1 =
      (x.decimalMagnitude - (16 + 1 : ℕ)) + (16 : ℕ) := by
    push_cast
    ring
  calc
    (10 : ℚ) ^ 16 * gridStep (x.decimalMagnitude - (16 + 1 : ℕ))
        = 4 * (unitsPerOne * 10 ^ (x.decimalMagnitude - 1)) := by
          rw [gridStep, hexponent, zpow_add₀ hten _ ((16 : ℕ) : ℤ), zpow_natCast]
          ring
    _ ≤ 4 * x.units := by
          linarith [tenPow_decimalMagnitude_le hpos]
    _ = x.interval.value := by
          rw [x.interval_value, units_eq]
          push_cast
          ring

/-- The digits that are found are rounded to the double. -/
theorem roundsTo_shortest {x : Finite64} (hpos : x.mantissa ≠ 0) :
    RoundsTo (x.shortest.value * unitsPerOne) x.units := by
  have hzero : x.isZero = false := beq_false_of_ne hpos
  rw [shortest, hzero, if_neg Bool.false_ne_true, value_dropZeros]
  cases hfound : (List.range 17).findSome? fun n =>
    (onGrid? x.interval (x.decimalMagnitude - (n + 1 : ℕ))).map fun digits =>
      Decimal.mk digits (x.decimalMagnitude - (n + 1 : ℕ)) with
  | none =>
      have hlast := List.findSome?_eq_none_iff.1 hfound 16 (by decide)
      exact absurd (Option.map_eq_none_iff.1 hlast)
        (onGrid?_ne_none hpos (gridStep_seventeenth hpos))
  | some d =>
      obtain ⟨n, -, hn⟩ := List.exists_of_findSome?_eq_some hfound
      obtain ⟨digits, hdigits, rfl⟩ := Option.map_eq_some_iff.1 hn
      obtain ⟨-, -, -, hsound, -⟩ := onGrid?_neighbours x.interval (x.decimalMagnitude - (n + 1 : ℕ))
      have hhas := hsound digits hdigits
      apply roundsTo_of_has hpos
      have hvalue : (digits : ℚ) * gridStep (x.decimalMagnitude - (n + 1 : ℕ)) =
          4 * (Decimal.value ⟨digits, x.decimalMagnitude - (n + 1 : ℕ)⟩ * unitsPerOne) := by
        rw [gridStep, Decimal.value]
        ring
      exact hvalue ▸ hhas

end Finite64
end EventRules
