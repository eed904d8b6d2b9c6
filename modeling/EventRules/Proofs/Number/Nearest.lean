import Mathlib
import EventRules.Number.Binary64

/-!
# Nearest — the law of the one rounding step

Every operation on doubles rounds an exact ratio once.  Here the ratio is a rational number of units, so
that the law does not depend on how it is written as a quotient.

* `NearestEven` — the whole number next to a rational, a tie going to the even one;
* `RoundsTo` — the units of the double next to a rational number of units; `RoundsTo.mono` says that
  rounding keeps the order, `Finite64.roundsTo_units` that a double is its own rounding;
* `Binary64.ofUnits_eq_finite_iff` — that this is what the rounding step computes.
-/

namespace EventRules

/-! ## Whole numbers -/

/-- No whole number is nearer to `v`, and of two that are as near it is the even one. -/
structure NearestEven (v : ℚ) (n : ℕ) : Prop where
  lower : (n : ℚ) - 1 / 2 ≤ v
  upper : v ≤ n + 1 / 2
  even_of_tie : v = n - 1 / 2 ∨ v = n + 1 / 2 → n % 2 = 0

namespace NearestEven

variable {v w : ℚ} {m n : ℕ}

theorem mono (hm : NearestEven v m) (hn : NearestEven w n) (h : v ≤ w) : m ≤ n := by
  by_contra hless
  have hstep : n + 1 ≤ m := by omega
  have hstep' : (n : ℚ) + 1 ≤ m := by exact_mod_cast hstep
  have hlower := hm.lower
  have hupper := hn.upper
  -- both are a half away, from the same side of one point
  have hv : v = n + 1 / 2 := by linarith
  have hw : w = n + 1 / 2 := by linarith
  have hm' : (m : ℚ) = n + 1 := by linarith
  have hsucc : m = n + 1 := by exact_mod_cast hm'
  have hneven := hn.even_of_tie (.inr hw)
  have hmeven := hm.even_of_tie (.inl (by rw [hv, hm']; ring))
  omega

theorem unique (hm : NearestEven v m) (hn : NearestEven v n) : m = n :=
  le_antisymm (hm.mono hn le_rfl) (hn.mono hm le_rfl)

theorem of_near (hlower : (n : ℚ) - 1 / 2 < v) (hupper : v < n + 1 / 2) : NearestEven v n where
  lower := hlower.le
  upper := hupper.le
  even_of_tie := by
    rintro (h | h)
    · exact absurd h hlower.ne'
    · exact absurd h hupper.ne

theorem of_even (heven : n % 2 = 0) (hlower : (n : ℚ) - 1 / 2 ≤ v) (hupper : v ≤ n + 1 / 2) :
    NearestEven v n :=
  ⟨hlower, hupper, fun _ => heven⟩

theorem self (n : ℕ) : NearestEven n n :=
  of_near (by linarith) (by linarith)

end NearestEven

theorem nearestEven_roundHalfEven (num : ℕ) {den : ℕ} (hden : 0 < den) :
    NearestEven (num / den) (roundHalfEven num den) := by
  have hden' : (0 : ℚ) < den := by exact_mod_cast hden
  have hv : (num : ℚ) / den = (num / den : ℕ) + (num % den : ℕ) / den := by
    rw [div_eq_iff hden'.ne', add_mul, div_mul_cancel₀ _ hden'.ne']
    exact_mod_cast (Nat.div_add_mod' num den).symm
  rw [hv]
  generalize hq : num / den = q
  generalize hr : num % den = r
  rw [roundHalfEven]
  simp only [hq, hr]
  have hnonneg : (0 : ℚ) ≤ r / den := by positivity
  have hone : (r : ℚ) / den < 1 := by
    rw [div_lt_one hden', ← hr]
    exact_mod_cast Nat.mod_lt num hden
  -- the remainder decides: below, above or at the half
  split_ifs with hbelow habove heven
  · have hhalf : (r : ℚ) / den < 1 / 2 := by
      rw [div_lt_div_iff₀ hden' two_pos]
      exact_mod_cast (by omega : r * 2 < 1 * den)
    exact .of_near (by linarith) (by linarith)
  · have hhalf : (1 : ℚ) / 2 < r / den := by
      rw [div_lt_div_iff₀ two_pos hden']
      exact_mod_cast (by omega : 1 * den < r * 2)
    exact .of_near (by push_cast; linarith) (by push_cast; linarith)
  all_goals
    have hhalf : (r : ℚ) / den = 1 / 2 := by
      rw [div_eq_div_iff hden'.ne' two_ne_zero]
      exact_mod_cast (by omega : r * 2 = 1 * den)
  · exact .of_even heven (by linarith) (by linarith)
  · exact .of_even (by omega) (by push_cast; linarith) (by push_cast; linarith)

/-! ## Scales -/

/-- The scale of the doubles on both sides of `v` units. -/
structure HasScale (v : ℚ) (scale : ℕ) : Prop where
  below : v < 2 ^ (scale + 53)
  above : scale = 0 ∨ 2 ^ (scale + 52) ≤ v

namespace HasScale

variable {v w : ℚ} {s t : ℕ}

theorem mono (hs : HasScale v s) (ht : HasScale w t) (h : v ≤ w) : s ≤ t := by
  rcases hs.above with rfl | habove
  · exact Nat.zero_le t
  · by_contra hless
    have hpower : (2 : ℚ) ^ (t + 53) ≤ 2 ^ (s + 52) := pow_le_pow_right₀ one_le_two (by omega)
    have hbelow := ht.below
    linarith

/-- The scale comes from the number of binary digits of the whole units. -/
theorem ofLog2 (num den : ℕ) : HasScale (num / den) ((num / den).log2 - 52) := by
  have hfloor : ⌊(num : ℚ) / den⌋₊ = num / den := Nat.floor_div_eq_div num den
  have hnonneg : (0 : ℚ) ≤ num / den := by positivity
  constructor
  · have hlog : num / den < 2 ^ ((num / den).log2 - 52 + 53) := by
      calc
        num / den < 2 ^ ((num / den).log2 + 1) := Nat.lt_log2_self
        _ ≤ 2 ^ ((num / den).log2 - 52 + 53) := Nat.pow_le_pow_right two_pos (by omega)
    have := (Nat.floor_lt hnonneg).1 (hfloor ▸ hlog)
    exact_mod_cast this
  · by_cases hsmall : (num / den).log2 ≤ 52
    · exact .inl (by omega)
    · right
      have hpos : num / den ≠ 0 := by
        intro hzero
        simp [hzero] at hsmall
      have hlog : 2 ^ ((num / den).log2 - 52 + 52) ≤ num / den := by
        rw [Nat.sub_add_cancel (by omega)]
        exact Nat.log2_self_le hpos
      have := (Nat.le_floor_iff hnonneg).1 (hfloor ▸ hlog)
      exact_mod_cast this

end HasScale

/-! ## Units -/

/-- `units` is what `v` units are rounded to: a multiple of the step of its scale. -/
inductive RoundsTo (v : ℚ) : ℕ → Prop
  | intro {scale mantissa : ℕ} : HasScale v scale → NearestEven (v / 2 ^ scale) mantissa →
      RoundsTo v (mantissa * 2 ^ scale)

namespace RoundsTo

variable {v w : ℚ} {m n : ℕ}

theorem mantissa_le {scale mantissa : ℕ} (hscale : HasScale v scale)
    (hnear : NearestEven (v / 2 ^ scale) mantissa) : mantissa ≤ 2 ^ 53 := by
  have hpower : (0 : ℚ) < 2 ^ scale := by positivity
  have hbelow : v / 2 ^ scale ≤ (2 ^ 53 : ℕ) := by
    rw [div_le_iff₀ hpower]
    calc
      v ≤ 2 ^ (scale + 53) := hscale.below.le
      _ = (2 ^ 53 : ℕ) * 2 ^ scale := by push_cast; ring
  exact hnear.mono (.self _) hbelow

theorem le_mantissa {scale mantissa : ℕ} (hscale : HasScale v scale)
    (hnear : NearestEven (v / 2 ^ scale) mantissa) (hpos : scale ≠ 0) : 2 ^ 52 ≤ mantissa := by
  have hpower : (0 : ℚ) < 2 ^ scale := by positivity
  have habove : ((2 ^ 52 : ℕ) : ℚ) ≤ v / 2 ^ scale := by
    rw [le_div_iff₀ hpower]
    calc
      ((2 ^ 52 : ℕ) : ℚ) * 2 ^ scale = 2 ^ (scale + 52) := by push_cast; ring
      _ ≤ v := hscale.above.resolve_left hpos
  exact (NearestEven.self _).mono hnear habove

theorem mono (hm : RoundsTo v m) (hn : RoundsTo w n) (h : v ≤ w) : m ≤ n := by
  obtain ⟨hs, hv⟩ := hm
  obtain ⟨ht, hw⟩ := hn
  rename_i s a t b
  rcases (hs.mono ht h).eq_or_lt with rfl | hless
  -- one scale, so one step
  · have hpower : (0 : ℚ) < 2 ^ s := by positivity
    exact Nat.mul_le_mul_right _ (hv.mono hw (div_le_div_of_nonneg_right h hpower.le))
  -- the power of two between the scales lies between the results
  · calc
      a * 2 ^ s ≤ 2 ^ 53 * 2 ^ s := Nat.mul_le_mul_right _ (mantissa_le hs hv)
      _ = 2 ^ 52 * 2 ^ (s + 1) := by ring
      _ ≤ 2 ^ 52 * 2 ^ t := Nat.mul_le_mul_left _ (Nat.pow_le_pow_right two_pos hless)
      _ ≤ b * 2 ^ t := Nat.mul_le_mul_right _ (le_mantissa ht hw (by omega))

theorem unique (hm : RoundsTo v m) (hn : RoundsTo v n) : m = n :=
  le_antisymm (hm.mono hn le_rfl) (hn.mono hm le_rfl)

/-- What has a mantissa of its own is not rounded. -/
theorem self {scale mantissa : ℕ} (hbelow : mantissa < 2 ^ 53)
    (habove : scale = 0 ∨ 2 ^ 52 ≤ mantissa) :
    RoundsTo ((mantissa * 2 ^ scale : ℕ) : ℚ) (mantissa * 2 ^ scale) := by
  have hscale : HasScale ((mantissa * 2 ^ scale : ℕ) : ℚ) scale := by
    constructor
    · have : mantissa * 2 ^ scale < 2 ^ (scale + 53) := by
        rw [Nat.pow_add, Nat.mul_comm]
        exact Nat.mul_lt_mul_of_pos_left hbelow (Nat.two_pow_pos scale)
      exact_mod_cast this
    · refine habove.imp_right fun h => ?_
      have : 2 ^ (scale + 52) ≤ mantissa * 2 ^ scale := by
        rw [Nat.pow_add, Nat.mul_comm]
        exact Nat.mul_le_mul_right _ h
      exact_mod_cast this
  refine .intro hscale ?_
  have hquotient : ((mantissa * 2 ^ scale : ℕ) : ℚ) / 2 ^ scale = mantissa := by
    push_cast
    exact mul_div_cancel_right₀ _ (by positivity)
  rw [hquotient]
  exact .self mantissa

/-- A power of two is not passed. -/
theorem pow_le {scale : ℕ} (h : RoundsTo v n) (hle : ((2 ^ (52 + scale) : ℕ) : ℚ) ≤ v) :
    2 ^ (52 + scale) ≤ n := by
  have hself : RoundsTo ((2 ^ 52 * 2 ^ scale : ℕ) : ℚ) (2 ^ 52 * 2 ^ scale) :=
    .self (by norm_num) (.inr le_rfl)
  rw [← Nat.pow_add] at hself
  exact hself.mono h hle

/-- Less than half a unit is nothing. -/
theorem zero_of_lt (hnonneg : 0 ≤ v) (hless : v < 1 / 2) : RoundsTo v 0 := by
  have hscale : HasScale v 0 := ⟨by norm_num; linarith, .inl rfl⟩
  have hnear : NearestEven (v / 2 ^ 0) 0 := .of_near (by norm_num; linarith) (by simpa using hless)
  simpa using RoundsTo.intro hscale hnear

end RoundsTo

/-! ## Doubles -/

namespace Finite64

theorem units_eq (x : Finite64) : x.units = x.mantissa * 2 ^ x.scale :=
  Nat.shiftLeft_eq ..

/-- A double is its own rounding. -/
theorem roundsTo_units (x : Finite64) : RoundsTo x.units x.units := by
  obtain ⟨hbelow, habove, -⟩ := x.canonical
  rw [units_eq]
  exact .self hbelow habove.symm

theorem units_lt_of_scale_le {x : Finite64} {s : ℕ} (h : x.scale ≤ s) :
    x.units < 2 ^ (53 + s) := by
  obtain ⟨hbelow, -, -⟩ := x.canonical
  calc
    x.units = x.mantissa * 2 ^ x.scale := x.units_eq
    _ < 2 ^ 53 * 2 ^ x.scale := Nat.mul_lt_mul_of_pos_right hbelow (Nat.two_pow_pos _)
    _ ≤ 2 ^ 53 * 2 ^ s := Nat.mul_le_mul_left _ (Nat.pow_le_pow_right two_pos h)
    _ = 2 ^ (53 + s) := (Nat.pow_add ..).symm

theorem log2_units_lt {x : Finite64} {s : ℕ} (hpos : x.units ≠ 0) (h : x.scale ≤ s) :
    x.units.log2 < 53 + s :=
  (Nat.log2_lt hpos).2 (units_lt_of_scale_le h)

/-- What the units of all doubles are below. -/
def unitsLimit : ℕ := 2 ^ 2098

theorem units_lt (x : Finite64) : x.units < unitsLimit := by
  rw [unitsLimit, show 2098 = 53 + 2045 from rfl]
  exact units_lt_of_scale_le x.canonical.2.2

theorem scale_le_of_units_eq {x y : Finite64} (h : x.units = y.units) : x.scale ≤ y.scale := by
  obtain ⟨-, hx, -⟩ := x.canonical
  obtain ⟨hy, -, -⟩ := y.canonical
  rw [units_eq, units_eq] at h
  by_contra hless
  have hnormal : 2 ^ 52 ≤ x.mantissa := hx.resolve_right (by omega)
  -- with a step that is twice as long, `x` needs a mantissa half as large
  have hpower : 2 ^ 53 * 2 ^ y.scale ≤ x.mantissa * 2 ^ x.scale := by
    calc
      2 ^ 53 * 2 ^ y.scale = 2 ^ 52 * 2 ^ (y.scale + 1) := by ring
      _ ≤ 2 ^ 52 * 2 ^ x.scale :=
          Nat.mul_le_mul_left _ (Nat.pow_le_pow_right two_pos (by omega))
      _ ≤ x.mantissa * 2 ^ x.scale := Nat.mul_le_mul_right _ hnormal
  have hmantissa : y.mantissa * 2 ^ y.scale < 2 ^ 53 * 2 ^ y.scale :=
    Nat.mul_lt_mul_of_pos_right hy (Nat.two_pow_pos _)
  omega

/-- Sign and units make a double. -/
theorem eq_of_units {x y : Finite64} (hsign : x.negative = y.negative) (h : x.units = y.units) :
    x = y := by
  have hscale : x.scale = y.scale :=
    le_antisymm (scale_le_of_units_eq h) (scale_le_of_units_eq h.symm)
  have hmantissa : x.mantissa = y.mantissa := by
    rw [units_eq, units_eq, hscale] at h
    exact Nat.eq_of_mul_eq_mul_right (Nat.two_pow_pos _) h
  rcases x with ⟨sign, mantissa, scale, canonical⟩
  rcases y with ⟨sign', mantissa', scale', canonical'⟩
  cases hsign
  cases hscale
  cases hmantissa
  rfl

end Finite64

namespace Binary64

theorem pow_le_of_le_scale {mantissa scale s : ℕ} (h : s ≤ scale) (hnormal : 2 ^ 52 ≤ mantissa) :
    2 ^ (52 + s) ≤ mantissa * 2 ^ scale := by
  rw [Nat.pow_add]
  exact Nat.mul_le_mul hnormal (Nat.pow_le_pow_right two_pos h)

/-- A number with all its digits is beyond the doubles if its scale is. -/
theorem unitsLimit_le {mantissa scale : ℕ} (h : 2046 ≤ scale) (hnormal : 2 ^ 52 ≤ mantissa) :
    Finite64.unitsLimit ≤ mantissa * 2 ^ scale := by
  rw [Finite64.unitsLimit, show 2098 = 52 + 2046 from rfl]
  exact pow_le_of_le_scale h hnormal

/-- Parts in their only form make a double of so many units, unless these are too many. -/
theorem ofParts_cases (negative : Bool) {mantissa scale : ℕ}
    (hbelow : mantissa < Finite64.mantissaLimit)
    (hnormal : Finite64.leastNormal ≤ mantissa ∨ scale = 0) :
    (∃ x : Finite64, ofParts negative mantissa scale = .finite x ∧ x.negative = negative ∧
      x.units = mantissa * 2 ^ scale) ∨
    (ofParts negative mantissa scale = .infinity negative ∧
      Finite64.unitsLimit ≤ mantissa * 2 ^ scale) := by
  by_cases hscale : scale ≤ 2045
  · have canonical : Finite64.Canonical mantissa scale := ⟨hbelow, hnormal, hscale⟩
    exact .inl ⟨⟨negative, mantissa, scale, canonical⟩, dif_pos canonical, rfl,
      Finite64.units_eq _⟩
  · have hlarge : ¬ Finite64.Canonical mantissa scale := fun canonical => hscale canonical.2.2
    exact .inr ⟨dif_neg hlarge, unitsLimit_le (by omega) (hnormal.resolve_right (by omega))⟩

/-- The rounding step puts together what its ratio rounds to. -/
theorem ofUnits_eq_ofParts (negative : Bool) (num : ℕ) {den : ℕ} (hden : 0 < den) :
    ∃ mantissa scale, ofUnits negative num den = ofParts negative mantissa scale ∧
      mantissa < Finite64.mantissaLimit ∧ (Finite64.leastNormal ≤ mantissa ∨ scale = 0) ∧
      RoundsTo (num / den) (mantissa * 2 ^ scale) := by
  rw [ofUnits]
  generalize hs : (num / den).log2 - 52 = s
  have hscale : HasScale ((num : ℚ) / den) s := hs ▸ HasScale.ofLog2 num den
  generalize hm : roundHalfEven num (den <<< s) = m
  have hnear : NearestEven ((num : ℚ) / den / 2 ^ s) m := by
    have hpos : 0 < den * 2 ^ s := by positivity
    have h := nearestEven_roundHalfEven num hpos
    rw [← Nat.shiftLeft_eq, hm, Nat.shiftLeft_eq] at h
    push_cast at h
    rwa [div_div]
  have hrounds : RoundsTo ((num : ℚ) / den) (m * 2 ^ s) := .intro hscale hnear
  by_cases hlimit : m = Finite64.mantissaLimit
  -- the mantissa has grown by a digit, so the scale takes it
  · have hunits : m * 2 ^ s = Finite64.leastNormal * 2 ^ (s + 1) := by
      rw [hlimit, Nat.pow_succ']
      ring
    exact ⟨Finite64.leastNormal, s + 1, if_pos hlimit, by decide, .inl le_rfl, hunits ▸ hrounds⟩
  · have hle : m ≤ Finite64.mantissaLimit := RoundsTo.mantissa_le hscale hnear
    refine ⟨m, s, if_neg hlimit, by omega, ?_, hrounds⟩
    by_cases hzero : s = 0
    · exact .inr hzero
    · exact .inl (RoundsTo.le_mantissa hscale hnear hzero)

/-- The rounding step gives the double next to the ratio, or an infinity if it is too large. -/
theorem ofUnits_cases (negative : Bool) (num : ℕ) {den : ℕ} (hden : 0 < den) :
    (∃ x : Finite64, ofUnits negative num den = .finite x ∧ x.negative = negative ∧
      RoundsTo (num / den) x.units) ∨
    (ofUnits negative num den = .infinity negative ∧
      ∃ units, RoundsTo (num / den) units ∧ Finite64.unitsLimit ≤ units) := by
  obtain ⟨mantissa, scale, heq, hbelow, hnormal, hrounds⟩ := ofUnits_eq_ofParts negative num hden
  rw [heq]
  rcases ofParts_cases negative hbelow hnormal with ⟨x, hx, hsign, hunits⟩ | ⟨hinfinite, hlarge⟩
  · exact .inl ⟨x, hx, hsign, hunits ▸ hrounds⟩
  · exact .inr ⟨hinfinite, _, hrounds, hlarge⟩

/-- The rounding step gives a double exactly if its units are what the ratio rounds to. -/
theorem ofUnits_eq_finite_iff {negative : Bool} {num den : ℕ} (hden : 0 < den) {x : Finite64} :
    ofUnits negative num den = .finite x ↔
      x.negative = negative ∧ RoundsTo (num / den) x.units := by
  rcases ofUnits_cases negative num hden with ⟨y, hy, hsign, hrounds⟩ | ⟨hlarge, units, hrounds, hle⟩
  · rw [hy]
    constructor
    · rintro ⟨⟩
      exact ⟨hsign, hrounds⟩
    · rintro ⟨hsign', hrounds'⟩
      rw [Finite64.eq_of_units (hsign.trans hsign'.symm) (hrounds.unique hrounds')]
  · rw [hlarge]
    constructor
    · rintro ⟨⟩
    · rintro ⟨-, hrounds'⟩
      have hunits := x.units_lt
      rw [hrounds'.unique hrounds] at hunits
      omega

end Binary64

end EventRules
