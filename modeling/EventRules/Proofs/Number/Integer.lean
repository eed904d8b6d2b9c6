import EventRules.Json.Basic
import EventRules.Proofs.Number.Spelling

/-!
# Integer — the doubles of integers

An integer between `-2 ^ 64` and `2 ^ 64` has a double, whose value is again an integer: the nearest
one that fifty-three binary digits can write.  It does not matter whether the integer was given as
such or spelled with decimal digits.

* `nearestInt` — the integer next to an integer that a double can hold;
* `Binary64.exists_ofInt` — the double of an integer in range, and its value;
* `Numeral.SpellsInt` — the decimal spellings of an integer;
* `Numeral.ofChars?_toString` — what is written for an integer is read as its double.
-/

namespace EventRules

/-! ## Rounding in integers -/

/-- The natural number next to `n` that fifty-three binary digits can write, a tie going to the even
one. -/
def nearestNat (n : ℕ) : ℕ := roundHalfEven n (2 ^ (n.log2 - 52)) * 2 ^ (n.log2 - 52)

/-- The integer next to `i` that a double can hold. -/
def nearestInt (i : ℤ) : ℤ := if i < 0 then -(nearestNat i.natAbs : ℤ) else nearestNat i.natAbs

theorem nearestNat_of_lt {n : ℕ} (h : n < 2 ^ 53) : nearestNat n = n := by
  have hlog : n.log2 - 52 = 0 := by
    by_cases hzero : n = 0
    · subst hzero
      decide
    · have := (Nat.log2_lt hzero).2 h
      omega
  rw [nearestNat, hlog, roundHalfEven]
  simp [Nat.mod_one]

/-- The powers of two around a number that is moved by so many digits. -/
theorem log2_bounds {n : ℕ} (hpos : n ≠ 0) (k : ℕ) :
    2 ^ (n.log2 + k) ≤ n * 2 ^ k ∧ n * 2 ^ k < 2 ^ (n.log2 + k + 1) := by
  constructor
  · rw [Nat.pow_add]
    exact Nat.mul_le_mul_right _ (Nat.log2_self_le hpos)
  · calc
      n * 2 ^ k < 2 ^ (n.log2 + 1) * 2 ^ k :=
        Nat.mul_lt_mul_of_pos_right Nat.lt_log2_self (Nat.two_pow_pos k)
      _ = 2 ^ (n.log2 + k + 1) := by ring

namespace RoundsTo

/-- What fifty-three digits can write is not rounded, on a scale that is fine enough. -/
theorem self_of_lt {n t : ℕ} (h : n < 2 ^ 53) (ht : 52 ≤ t) :
    RoundsTo ((n * 2 ^ t : ℕ) : ℚ) (n * 2 ^ t) := by
  by_cases hzero : n = 0
  · subst hzero
    rw [Nat.zero_mul, Nat.cast_zero]
    exact .zero_of_lt le_rfl (by norm_num)
  -- the mantissa is `n` with as many zeros behind it as there is room for
  · have hlog : n.log2 < 53 := (Nat.log2_lt hzero).2 h
    obtain ⟨k, hk⟩ : ∃ k, n.log2 + k = 52 := ⟨52 - n.log2, by omega⟩
    obtain ⟨habove, hbelow⟩ := log2_bounds hzero k
    rw [hk] at habove hbelow
    obtain ⟨s, rfl⟩ : ∃ s, t = k + s := ⟨t - k, by omega⟩
    have hmantissa : n * 2 ^ (k + s) = n * 2 ^ k * 2 ^ s := by ring
    rw [hmantissa]
    exact .self hbelow (.inr habove)

/-- A whole number is rounded to a whole number. -/
theorem nearest (n : ℕ) {t : ℕ} (ht : 52 ≤ t) :
    RoundsTo (n * (2 ^ t : ℕ)) (nearestNat n * 2 ^ t) := by
  by_cases hsmall : n < 2 ^ 53
  · rw [nearestNat_of_lt hsmall]
    exact_mod_cast self_of_lt hsmall ht
  · have hpos : n ≠ 0 := by
      rintro rfl
      exact hsmall (by decide)
    have hlog : 53 ≤ n.log2 := (Nat.le_log2 hpos).2 (not_lt.1 hsmall)
    -- `s` digits are too many, so the step is `2 ^ s` ones
    obtain ⟨s, hs⟩ : ∃ s, n.log2 = s + 52 := ⟨n.log2 - 52, by omega⟩
    obtain ⟨habove, hbelow⟩ := log2_bounds hpos t
    have hscale : HasScale (n * (2 ^ t : ℕ)) (s + t) := by
      have hexponent : n.log2 + t = s + t + 52 := by omega
      rw [hexponent] at habove hbelow
      exact ⟨by exact_mod_cast hbelow, .inr (by exact_mod_cast habove)⟩
    have hquotient : (n * (2 ^ t : ℕ) : ℚ) / 2 ^ (s + t) = (n : ℚ) / (2 ^ s : ℕ) := by
      rw [pow_add]
      push_cast
      exact mul_div_mul_right _ _ (by positivity)
    have hnear : NearestEven ((n * (2 ^ t : ℕ) : ℚ) / 2 ^ (s + t)) (roundHalfEven n (2 ^ s)) := by
      rw [hquotient]
      exact nearestEven_roundHalfEven n (Nat.two_pow_pos s)
    have hunits : nearestNat n * 2 ^ t = roundHalfEven n (2 ^ s) * 2 ^ (s + t) := by
      rw [nearestNat, hs, Nat.add_sub_cancel]
      ring
    rw [hunits]
    exact .intro hscale hnear

end RoundsTo

/-! ## Doubles of integers -/

namespace Finite64

theorem exists_unitsPerOne : ∃ t, 52 ≤ t ∧ unitsPerOne = 2 ^ t := by
  have key : ∀ s, 52 ≤ s → ∃ t, 52 ≤ t ∧ 1 <<< s = 2 ^ t := fun s hs =>
    ⟨s, hs, Nat.one_shiftLeft s⟩
  exact key 1074 (by decide)

theorem roundsTo_nearestNat (n : ℕ) :
    RoundsTo (n * unitsPerOne) (nearestNat n * unitsPerOne) := by
  obtain ⟨t, ht, hunit⟩ := exists_unitsPerOne
  rw [hunit]
  exact .nearest n ht

end Finite64

open Finite64 (unitsPerOne unitsPerOne_pos roundsTo_nearestNat)

theorem nearestNat_mono {m n : ℕ} (h : m ≤ n) : nearestNat m ≤ nearestNat n := by
  have hle : (m * unitsPerOne : ℚ) ≤ n * unitsPerOne :=
    mul_le_mul_of_nonneg_right (Nat.cast_le.2 h) (Nat.cast_nonneg unitsPerOne)
  exact Nat.le_of_mul_le_mul_right
    ((roundsTo_nearestNat m).mono (roundsTo_nearestNat n) hle) unitsPerOne_pos

theorem nearestNat_of_le {n : ℕ} (h : n ≤ 2 ^ 53) : nearestNat n = n := by
  rcases h.eq_or_lt with rfl | hless
  · decide +kernel
  · exact nearestNat_of_lt hless

theorem nearestInt_natCast (n : ℕ) : nearestInt n = nearestNat n :=
  if_neg (by omega)

theorem nearestInt_neg_natCast (n : ℕ) : nearestInt (-n) = -nearestNat n := by
  by_cases hzero : n = 0
  · subst hzero
    decide
  · rw [nearestInt, if_pos (by omega), Int.natAbs_neg, Int.natAbs_natCast]

theorem nearestInt_of_le {i : ℤ} (h : i.natAbs ≤ 2 ^ 53) : nearestInt i = i := by
  rw [nearestInt, nearestNat_of_le h]
  split_ifs <;> omega

theorem natAbs_nearestInt (i : ℤ) : (nearestInt i).natAbs = nearestNat i.natAbs := by
  rw [nearestInt]
  split_ifs
  · rw [Int.natAbs_neg, Int.natAbs_natCast]
  · rw [Int.natAbs_natCast]

/-- Below `2 ^ 53` an integer is next to no other. -/
theorem eq_of_nearestInt_eq {i j : ℤ} (h : nearestInt i = nearestInt j)
    (hsmall : i.natAbs < 2 ^ 53) : i = j := by
  have hi : nearestInt i = i := nearestInt_of_le hsmall.le
  by_cases hj : j.natAbs ≤ 2 ^ 53
  · rwa [hi, nearestInt_of_le hj] at h
  · have hlarge := nearestNat_mono (not_le.1 hj).le
    rw [nearestNat_of_le le_rfl, ← natAbs_nearestInt, ← h, hi] at hlarge
    omega

theorem nearestInt_mono {i j : ℤ} (h : i ≤ j) : nearestInt i ≤ nearestInt j := by
  rw [nearestInt, nearestInt]
  split_ifs with hi hj hj
  · have := nearestNat_mono (by omega : j.natAbs ≤ i.natAbs)
    omega
  · omega
  · omega
  · have := nearestNat_mono (by omega : i.natAbs ≤ j.natAbs)
    omega

namespace Finite64

/-- A double next to a whole number is a whole number. -/
theorem signedUnits_of_roundsTo {n : ℕ} {x : Finite64} (h : RoundsTo (n * unitsPerOne) x.units) :
    x.signedUnits = nearestInt (if x.negative then -(n : ℤ) else n) * unitsPerOne := by
  have hunits : x.units = nearestNat n * unitsPerOne := h.unique (roundsTo_nearestNat n)
  rw [signedUnits, hunits]
  split_ifs
  · rw [nearestInt_neg_natCast]
    push_cast
    ring
  · rw [nearestInt_natCast]
    push_cast
    rfl

/-- Integers of sixty-four bits have doubles. -/
theorem exists_roundsTo (negative : Bool) {n : ℕ} (h : n ≤ 2 ^ 64) :
    ∃ x : Finite64, x.negative = negative ∧ RoundsTo (n * unitsPerOne) x.units := by
  have hvalue : ((n * unitsPerOne : ℕ) : ℚ) / (1 : ℕ) = n * unitsPerOne := by
    push_cast
    exact div_one _
  rcases Binary64.ofUnits_cases negative (n * unitsPerOne) Nat.one_pos with
    ⟨x, -, hsign, hrounds⟩ | ⟨-, units, hrounds, hlarge⟩
  · rw [hvalue] at hrounds
    exact ⟨x, hsign, hrounds⟩
  · rw [hvalue] at hrounds
    -- the largest of them is far below the limit, and rounding keeps the order
    have hless : nearestNat (2 ^ 64) * unitsPerOne < unitsLimit := by decide +kernel
    have hle := Nat.mul_le_mul_right unitsPerOne (nearestNat_mono h)
    rw [hrounds.unique (roundsTo_nearestNat n)] at hlarge
    omega

end Finite64

namespace Binary64

/-- The double `x` has the value `i`. -/
def IsInt (x : Binary64) (i : ℤ) : Prop :=
  ∃ y : Finite64, x = .finite y ∧ y.signedUnits = i * unitsPerOne

theorem compare?_of_isInt {x y : Binary64} {i j : ℤ} (hx : x.IsInt i) (hy : y.IsInt j) :
    x.compare? y = some (compare i j) := by
  obtain ⟨x, rfl, hi⟩ := hx
  obtain ⟨y, rfl, hj⟩ := hy
  have hpos : (0 : ℤ) < unitsPerOne := Int.natCast_pos.2 unitsPerOne_pos
  rw [compare?, hi, hj]
  congr 1
  rcases lt_trichotomy i j with hless | rfl | hgreater
  · rw [compare_lt_iff_lt.2 hless, compare_lt_iff_lt]
    exact Int.mul_lt_mul_of_pos_right hless hpos
  · exact (compare_eq_iff_eq.2 rfl).trans (compare_eq_iff_eq.2 rfl).symm
  · rw [compare_gt_iff_gt.2 hgreater, compare_gt_iff_gt]
    exact Int.mul_lt_mul_of_pos_right hgreater hpos

theorem ofInt_eq_finite {i : ℤ} {x : Finite64} (hsign : x.negative = decide (i < 0))
    (hrounds : RoundsTo (i.natAbs * unitsPerOne) x.units) : ofInt i = .finite x := by
  refine (ofUnits_eq_finite_iff Nat.one_pos).2 ⟨hsign, ?_⟩
  push_cast
  rwa [div_one]

theorem isInt_of_roundsTo {n : ℕ} {x : Finite64} (h : RoundsTo (n * unitsPerOne) x.units) :
    IsInt (.finite x) (nearestInt (if x.negative then -(n : ℤ) else n)) :=
  ⟨x, rfl, Finite64.signedUnits_of_roundsTo h⟩

/-- An integer in range is rounded to a double, with its sign. -/
theorem exists_ofInt {i : ℤ} (h : Number.InRange i) :
    ∃ x : Finite64, ofInt i = .finite x ∧ x.negative = decide (i < 0) ∧
      RoundsTo (i.natAbs * unitsPerOne) x.units := by
  have hsize : i.natAbs ≤ 2 ^ 64 := by
    obtain ⟨hlow, hhigh⟩ := h
    omega
  obtain ⟨x, hsign, hrounds⟩ := Finite64.exists_roundsTo (decide (i < 0)) hsize
  exact ⟨x, ofInt_eq_finite hsign hrounds, hsign, hrounds⟩

theorem isInt_ofInt {i : ℤ} (h : Number.InRange i) : (ofInt i).IsInt (nearestInt i) := by
  obtain ⟨x, hx, hsign, hrounds⟩ := exists_ofInt h
  -- sign and absolute value together are the integer again
  have hvalue : (if x.negative then -(i.natAbs : ℤ) else i.natAbs) = i := by
    rw [hsign]
    split_ifs with hneg
    · rw [decide_eq_true_eq] at hneg
      omega
    · rw [decide_eq_true_eq] at hneg
      omega
  have hint := isInt_of_roundsTo hrounds
  rw [hvalue] at hint
  rwa [hx]

end Binary64

/-! ## Spellings of integers -/

namespace Numeral

/-- Digits behind at most one sign spell an integer. -/
inductive SpellsInt : List Char → ℤ → Prop
  | intro {sign digits : List Char} {negative : Bool} : Sign sign negative → digits ≠ [] →
      AllDigits digits →
      SpellsInt (sign ++ digits)
        (if negative then -(natOfDigits digits : ℤ) else natOfDigits digits)

theorem ofChars?_of_digits {sign digits : List Char} {x : Finite64} (hsign : Sign sign x.negative)
    (hne : digits ≠ []) (hdigits : AllDigits digits)
    (hrounds : RoundsTo (natOfDigits digits * unitsPerOne) x.units) :
    ofChars? (sign ++ digits) = some (.finite x) := by
  have numeral := unsigned_of_allDigits hne hdigits
  exact ofChars?_of_unsigned sign numeral (hsign.split numeral.noSign) hrounds

/-- The spelling of an integer in range is read as a double next to it. -/
theorem isInt_of_spellsInt {cs : List Char} {i : ℤ} (h : SpellsInt cs i)
    (hrange : Number.InRange i) : ∃ x, ofChars? cs = some x ∧ x.IsInt (nearestInt i) := by
  obtain @⟨sign, digits, negative, hsign, hne, hdigits⟩ := h
  have hsize : natOfDigits digits ≤ 2 ^ 64 := by
    obtain ⟨hlow, hhigh⟩ := hrange
    split_ifs at hlow hhigh <;> omega
  obtain ⟨x, rfl, hrounds⟩ := Finite64.exists_roundsTo negative hsize
  exact ⟨.finite x, ofChars?_of_digits hsign hne hdigits hrounds,
    Binary64.isInt_of_roundsTo hrounds⟩

theorem toList_toString (i : ℤ) : ∃ sign, Sign sign (decide (i < 0)) ∧
    (toString i).toList = sign ++ Nat.toDigits 10 i.natAbs := by
  cases i with
  | ofNat n =>
      refine ⟨[], ?_, ?_⟩
      · rw [decide_eq_false (by simp)]
        exact .none
      · exact String.toList_ofList
  | negSucc n =>
      refine ⟨['-'], ?_, ?_⟩
      · rw [decide_eq_true (Int.negSucc_lt_zero n)]
        exact .minus
      · calc
          ("-" ++ (n + 1).repr).toList = "-".toList ++ (n + 1).repr.toList := String.toList_append
          _ = ['-'] ++ Nat.toDigits 10 (n + 1) :=
              congrArg (['-'] ++ ·) String.toList_ofList

/-- What is written for an integer is read as its double. -/
theorem ofChars?_toString {i : ℤ} (h : Number.InRange i) :
    ofChars? (toString i).toList = some (Binary64.ofInt i) := by
  obtain ⟨sign, hsign, htext⟩ := toList_toString i
  obtain ⟨x, hx, hnegative, hrounds⟩ := Binary64.exists_ofInt h
  rw [← hnegative] at hsign
  rw [← natOfDigits_toDigits i.natAbs] at hrounds
  rw [htext, hx]
  exact ofChars?_of_digits hsign Nat.toDigits_ne_nil (AllDigits.toDigits i.natAbs) hrounds

/-- What is written for a number is read as its double. -/
theorem ofChars?_toText (n : Number) : ofChars? n.toText.toList = some n.toBinary64 := by
  cases n with
  | integer i hrange =>
      exact ofChars?_toString hrange
  | float x =>
      exact DecimalLayout.ofChars?_write _ x

end Numeral

end EventRules
