import EventRules.Number.Numeral
import EventRules.Proofs.Number.Shortest

/-!
# Numeral — what is written for a number is a numeral of it

A numeral is read as a decimal, of which only the value matters.  The forms in which numbers are
written, positional and scientific, have the value of the digits that they are made of, and a double is
written with digits that are rounded to it.

* `Numeral.natOfDigits_append`, `Numeral.natOfDigits_toDigits` — the number of a row of digits;
* `Numeral.decimal?_of_parts` — the decimal of a numeral with all its parts;
* `DecimalLayout.ofChars?_write` — a double that is written is read again.
-/

namespace EventRules

/-- Decimal digits and nothing else. -/
def AllDigits (cs : List Char) : Prop := ∀ c ∈ cs, c.isDigit = true

namespace AllDigits

variable {xs ys rest : List Char}

theorem append (hx : AllDigits xs) (hy : AllDigits ys) : AllDigits (xs ++ ys) := by
  intro c hc
  exact (List.mem_append.1 hc).elim (hx c) (hy c)

theorem replicate_zero (n : ℕ) : AllDigits (List.replicate n '0') := by
  intro c hc
  rw [List.eq_of_mem_replicate hc]
  decide

theorem toDigits (n : ℕ) : AllDigits (Nat.toDigits 10 n) := fun _ hc =>
  Nat.isDigit_of_mem_toDigits (by decide) le_rfl hc

/-- Digits are taken up to what is none. -/
theorem takeWhile_append (h : AllDigits xs) (hrest : ∀ c ∈ rest.head?, c.isDigit = false) :
    (xs ++ rest).takeWhile Char.isDigit = xs := by
  rw [List.takeWhile_append_of_pos h]
  cases rest with
  | nil =>
      exact List.append_nil xs
  | cons c rest =>
      rw [List.takeWhile_cons_of_neg (by simp [hrest c rfl]), List.append_nil]

theorem dropWhile_append (h : AllDigits xs) (hrest : ∀ c ∈ rest.head?, c.isDigit = false) :
    (xs ++ rest).dropWhile Char.isDigit = rest := by
  rw [List.dropWhile_append_of_pos h]
  cases rest with
  | nil =>
      rfl
  | cons c rest =>
      rw [List.dropWhile_cons_of_neg (by simp [hrest c rfl])]

end AllDigits

namespace Numeral

/-! ## Digits -/

theorem natOfDigits_eq (cs : List Char) : natOfDigits cs = Nat.ofDigitChars 10 cs 0 := by
  rw [natOfDigits, Nat.ofDigitChars_eq_foldl]
  congr 1
  funext n c
  rw [Nat.mul_comm, digitValue]
  rfl

theorem natOfDigits_append (xs ys : List Char) :
    natOfDigits (xs ++ ys) = natOfDigits xs * 10 ^ ys.length + natOfDigits ys := by
  rw [natOfDigits_eq, natOfDigits_eq, natOfDigits_eq, Nat.ofDigitChars_append,
    Nat.ofDigitChars_eq_ofDigitChars_zero, Nat.mul_comm]

theorem natOfDigits_replicate_zero (n : ℕ) : natOfDigits (List.replicate n '0') = 0 := by
  induction n with
  | zero =>
      rfl
  | succ n ih =>
      rw [List.replicate_succ', natOfDigits_append, ih]
      rfl

theorem natOfDigits_toDigits (n : ℕ) : natOfDigits (Nat.toDigits 10 n) = n := by
  rw [natOfDigits_eq, Nat.ofDigitChars_toDigits (by decide) le_rfl]

/-! ## Signs -/

theorem splitSign_of_digit {c : Char} (h : c.isDigit = true) (rest : List Char) :
    splitSign (c :: rest) = (false, c :: rest) := by
  rw [splitSign]
  · rintro tail ⟨⟩
    exact absurd h (by decide)
  · rintro tail ⟨⟩
    exact absurd h (by decide)

theorem splitSign_of_allDigits {cs : List Char} (h : AllDigits cs) :
    splitSign cs = (false, cs) := by
  cases cs with
  | nil =>
      rfl
  | cons c rest =>
      exact splitSign_of_digit (h c List.mem_cons_self) rest

/-! ## Decimals -/

/-- What may follow the digits of a numeral, and the exponent that it stands for. -/
inductive Exponent : List Char → ℤ → Prop
  | absent : Exponent [] 0
  | written {digits : List Char} {e : ℤ} : exponent? digits = some e → Exponent ('e' :: digits) e

/-- The digits behind a point, with the point if there are any. -/
def pointed (fraction : List Char) : List Char := if fraction = [] then [] else '.' :: fraction

theorem decimal?_of_parts {whole fraction tail : List Char} {e : ℤ} (hne : whole ≠ [])
    (hwhole : AllDigits whole) (hfraction : AllDigits fraction) (htail : Exponent tail e) :
    decimal? (whole ++ (pointed fraction ++ tail)) =
      some ⟨natOfDigits (whole ++ fraction), -(fraction.length : ℤ) + e⟩ := by
  have htailHead : ∀ c ∈ tail.head?, c.isDigit = false := by
    intro c hc
    cases htail with
    | absent =>
        cases hc
    | written _ =>
        cases hc
        decide
  have hhead : ∀ c ∈ (pointed fraction ++ tail).head?, c.isDigit = false := by
    intro c hc
    rw [pointed] at hc
    split_ifs at hc
    · exact htailHead c hc
    · cases hc
      decide
  rw [decimal?, hwhole.takeWhile_append hhead, hwhole.dropWhile_append hhead]
  have hsome : whole.isEmpty = false := List.isEmpty_eq_false_iff.2 hne
  -- without a point the tail follows at once, else behind the digits of the fraction
  by_cases hnone : fraction = []
  · subst hnone
    cases htail with
    | absent =>
        simp [pointed, hsome]
    | written hexponent =>
        simp [pointed, hsome, hexponent]
  · rw [pointed, if_neg hnone, List.cons_append]
    simp only [hfraction.takeWhile_append htailHead, hfraction.dropWhile_append htailHead, hsome,
      Bool.false_and, if_neg Bool.false_ne_true]
    cases htail with
    | absent =>
        simp
    | written hexponent =>
        simp [hexponent]

/-! ## Values -/

/-- A numeral without a sign that stands for `v`. -/
structure Unsigned (cs : List Char) (v : ℚ) : Prop where
  decimal : ∃ d, decimal? cs = some d ∧ d.value = v
  noSign : splitSign cs = (false, cs)

theorem unsigned_of_parts {whole fraction tail : List Char} {e : ℤ} (hne : whole ≠ [])
    (hwhole : AllDigits whole) (hfraction : AllDigits fraction) (htail : Exponent tail e) :
    Unsigned (whole ++ (pointed fraction ++ tail))
      (natOfDigits (whole ++ fraction) * 10 ^ (-(fraction.length : ℤ) + e)) := by
  refine ⟨⟨_, decimal?_of_parts hne hwhole hfraction htail, rfl⟩, ?_⟩
  cases whole with
  | nil =>
      exact absurd rfl hne
  | cons first rest =>
      exact splitSign_of_digit (hwhole first List.mem_cons_self) _

/-- Digits alone stand for their number. -/
theorem unsigned_of_allDigits {cs : List Char} (hne : cs ≠ []) (h : AllDigits cs) :
    Unsigned cs (natOfDigits cs) := by
  have hfraction : AllDigits [] := fun _ hc => by cases hc
  simpa [pointed] using unsigned_of_parts hne h hfraction .absent

/-- A numeral is read as the double that its value is rounded to. -/
theorem ofChars?_of_unsigned (sign : List Char) {cs : List Char} {v : ℚ} (numeral : Unsigned cs v)
    {x : Finite64} (hsign : splitSign (sign ++ cs) = (x.negative, cs))
    (hrounds : RoundsTo (v * Finite64.unitsPerOne) x.units) :
    ofChars? (sign ++ cs) = some (.finite x) := by
  obtain ⟨⟨d, hd, rfl⟩, -⟩ := numeral
  have hparse : parse? (sign ++ cs) = some (x.negative, d) := by
    rw [parse?, hsign]
    simp only [hd, Option.map_some]
  rw [ofChars?, hparse]
  exact congrArg some (Binary64.ofDecimal_eq_finite hrounds)

/-! ## Written forms -/

theorem exponent?_of_splitSign (negative : Bool) {cs : List Char} {n : ℕ}
    (h : splitSign cs = (negative, Nat.toDigits 10 n)) :
    exponent? cs = some (if negative then -(n : ℤ) else n) := by
  have hall : (Nat.toDigits 10 n).all Char.isDigit = true :=
    List.all_eq_true.2 (AllDigits.toDigits n)
  have hsome : (Nat.toDigits 10 n).isEmpty = false :=
    List.isEmpty_eq_false_iff.2 Nat.toDigits_ne_nil
  rw [exponent?, h]
  simp only [hall, hsome, natOfDigits_toDigits, Bool.not_true, Bool.or_self,
    if_neg Bool.false_ne_true]

theorem exponent?_write (plusSign : Bool) (e : ℤ) :
    exponent? ((if e < 0 then ['-'] else if plusSign then ['+'] else []) ++
      Nat.toDigits 10 e.natAbs) = some e := by
  split_ifs with hneg hplus
  · rw [exponent?_of_splitSign true rfl, if_pos rfl]
    congr 1
    omega
  · rw [exponent?_of_splitSign false rfl, if_neg Bool.false_ne_true]
    congr 1
    omega
  · rw [List.nil_append,
      exponent?_of_splitSign false (splitSign_of_allDigits (AllDigits.toDigits e.natAbs)),
      if_neg Bool.false_ne_true]
    congr 1
    omega

variable {digits : List Char}

/-- Zeros between the point and the first digit. -/
theorem unsigned_zeros_before (hne : digits ≠ []) (hdigits : AllDigits digits) (zeros : ℕ) :
    Unsigned (['0', '.'] ++ List.replicate zeros '0' ++ digits)
      (natOfDigits digits * 10 ^ (-(zeros : ℤ) - digits.length)) := by
  have hfraction := (AllDigits.replicate_zero zeros).append hdigits
  have hpointed : pointed (List.replicate zeros '0' ++ digits) =
      '.' :: (List.replicate zeros '0' ++ digits) := if_neg (by simp [hne])
  have hexponent : -((List.replicate zeros '0' ++ digits).length : ℤ) + 0 =
      -(zeros : ℤ) - digits.length := by
    rw [List.length_append, List.length_replicate]
    push_cast
    ring
  have h := unsigned_of_parts (List.cons_ne_nil '0' []) (AllDigits.replicate_zero 1) hfraction
    .absent
  rw [hpointed, List.append_nil, natOfDigits_append, natOfDigits_append,
    natOfDigits_replicate_zero, hexponent] at h
  simpa [natOfDigits, digitValue] using h

/-- Zeros between the last digit and the point, and one behind it. -/
theorem unsigned_zeros_behind (hne : digits ≠ []) (hdigits : AllDigits digits) (zeros : ℕ) :
    Unsigned (digits ++ List.replicate zeros '0' ++ ['.', '0'])
      (natOfDigits digits * 10 ^ zeros) := by
  have hwhole := hdigits.append (AllDigits.replicate_zero zeros)
  have h := unsigned_of_parts (by simp [hne]) hwhole (AllDigits.replicate_zero 1) .absent
  rw [natOfDigits_append, natOfDigits_append, natOfDigits_replicate_zero] at h
  simpa [pointed, natOfDigits, digitValue] using h

/-- The point among the digits. -/
theorem unsigned_point_among (hdigits : AllDigits digits) {n : ℕ} (hpos : n ≠ 0)
    (hless : n < digits.length) :
    Unsigned (digits.take n ++ '.' :: digits.drop n)
      (natOfDigits digits * 10 ^ ((n : ℤ) - digits.length)) := by
  have hwhole : AllDigits (digits.take n) := fun c hc => hdigits c (List.mem_of_mem_take hc)
  have hfraction : AllDigits (digits.drop n) := fun c hc => hdigits c (List.mem_of_mem_drop hc)
  have hne : digits.take n ≠ [] := by
    rw [ne_eq, List.take_eq_nil_iff, not_or]
    exact ⟨hpos, List.ne_nil_of_length_pos (by omega)⟩
  have hpointed : pointed (digits.drop n) = '.' :: digits.drop n :=
    if_neg fun hnone => not_le.2 hless (List.drop_eq_nil_iff.1 hnone)
  have hexponent : -((digits.drop n).length : ℤ) + 0 = (n : ℤ) - digits.length := by
    rw [List.length_drop]
    omega
  have h := unsigned_of_parts hne hwhole hfraction .absent
  rwa [hpointed, List.append_nil, List.take_append_drop, hexponent] at h

/-- Digits around a point stand for their number, moved by so many places. -/
theorem unsigned_positionalText (hne : digits ≠ []) (hdigits : AllDigits digits) (point : ℤ) :
    Unsigned (DecimalLayout.positionalText digits point)
      (natOfDigits digits * 10 ^ (point - digits.length)) := by
  rw [DecimalLayout.positionalText]
  split_ifs with hpoint
  · obtain ⟨zeros, hzeros⟩ := Int.eq_ofNat_of_zero_le (by omega : 0 ≤ -point)
    obtain rfl : point = -(zeros : ℤ) := by omega
    rw [neg_neg, Int.toNat_natCast]
    exact unsigned_zeros_before hne hdigits zeros
  · obtain ⟨n, rfl⟩ := Int.eq_ofNat_of_zero_le (not_le.1 hpoint).le
    rw [Int.toNat_natCast]
    dsimp only
    by_cases hbefore : digits.length ≤ n
    · have hpower : (10 : ℚ) ^ ((n : ℤ) - digits.length) = 10 ^ (n - digits.length) := by
        rw [← zpow_natCast, Nat.cast_sub hbefore]
      rw [List.drop_of_length_le hbefore, List.take_of_length_le hbefore, hpower]
      exact unsigned_zeros_behind hne hdigits (n - digits.length)
    · have hless : n < digits.length := not_le.1 hbefore
      have hnone : (digits.drop n).isEmpty = false := by simpa using hless
      rw [hnone, Nat.sub_eq_zero_of_le hless.le, List.replicate_zero, List.append_nil]
      exact unsigned_point_among hdigits (by omega) hless

/-- Digits with an exponent stand for their number, moved by so many places. -/
theorem unsigned_scientificText (plusSign : Bool) (hne : digits ≠ []) (hdigits : AllDigits digits)
    (exponent : ℤ) :
    Unsigned (DecimalLayout.scientificText plusSign digits exponent)
      (natOfDigits digits * 10 ^ (exponent + 1 - digits.length)) := by
  cases digits with
  | nil =>
      exact absurd rfl hne
  | cons first rest =>
      have hwhole : AllDigits [first] := fun c hc =>
        hdigits c (List.mem_singleton.1 hc ▸ List.mem_cons_self)
      have hfraction : AllDigits rest := fun c hc => hdigits c (List.mem_cons_of_mem _ hc)
      have h := unsigned_of_parts (List.cons_ne_nil first []) hwhole hfraction
        (.written (exponent?_write plusSign exponent))
      have hexponent : -(rest.length : ℤ) + exponent =
          exponent + 1 - ((first :: rest).length : ℤ) := by
        rw [List.length_cons]
        push_cast
        ring
      rw [hexponent] at h
      have htext : DecimalLayout.scientificText plusSign (first :: rest) exponent =
          [first] ++ (pointed rest ++ 'e' ::
            ((if exponent < 0 then ['-'] else if plusSign then ['+'] else []) ++
              Nat.toDigits 10 exponent.natAbs)) := by
        cases rest with
        | nil =>
            rfl
        | cons second more =>
            simp [DecimalLayout.scientificText, pointed]
      rw [htext]
      exact h

end Numeral

/-! ## Doubles -/

namespace Numeral

/-- The text of zero. -/
theorem unsigned_zero : Unsigned ['0', '.', '0'] 0 := by
  have hdigit : AllDigits ['0'] := AllDigits.replicate_zero 1
  have h := unsigned_zeros_behind (List.cons_ne_nil '0' []) hdigit 0
  simpa [natOfDigits, digitValue] using h

/-- A numeral and perhaps a minus are read as the double that they are rounded to. -/
theorem ofChars?_of_minus {body : List Char} {v : ℚ} {x : Finite64} (numeral : Unsigned body v)
    (hrounds : RoundsTo (v * Finite64.unitsPerOne) x.units) :
    ofChars? (if x.negative then '-' :: body else body) = some (.finite x) := by
  cases hnegative : x.negative with
  | true =>
      exact ofChars?_of_unsigned ['-'] numeral (by rw [hnegative]; rfl) hrounds
  | false =>
      exact ofChars?_of_unsigned [] numeral (by rw [hnegative]; exact numeral.noSign) hrounds

end Numeral

namespace DecimalLayout

open Numeral

/-- A double that is written is read again, in any layout. -/
theorem ofChars?_write (layout : DecimalLayout) (x : Finite64) :
    ofChars? (layout.write x).toList = some (.finite x) := by
  rw [write, String.toList_ofList]
  by_cases hzero : x.mantissa = 0
  · have hisZero : x.isZero = true := beq_iff_eq.2 hzero
    have hunits : x.units = 0 := by
      rw [Finite64.units_eq, hzero, Nat.zero_mul]
    simp only [hisZero, if_true]
    apply ofChars?_of_minus unsigned_zero
    rw [zero_mul, hunits]
    exact .zero_of_lt le_rfl (by norm_num)
  · have hisZero : x.isZero = false := beq_false_of_ne hzero
    -- either form has the value of the shortest digits, which are rounded to the double
    have hrounds := Finite64.roundsTo_shortest hzero
    have hne : Nat.toDigits 10 x.shortest.significand ≠ [] := Nat.toDigits_ne_nil
    have hdigits := AllDigits.toDigits x.shortest.significand
    simp only [hisZero, if_neg Bool.false_ne_true]
    generalize hpoint : ((Nat.toDigits 10 x.shortest.significand).length : ℤ) +
      x.shortest.exponent = point
    by_cases hpositional : layout.positional (point - 1) = true
    · have numeral := unsigned_positionalText hne hdigits point
      rw [natOfDigits_toDigits, ← hpoint, add_sub_cancel_left] at numeral
      rw [if_pos hpositional, ← hpoint]
      exact ofChars?_of_minus numeral hrounds
    · have numeral := unsigned_scientificText layout.plusSign hne hdigits (point - 1)
      rw [natOfDigits_toDigits, sub_add_cancel, ← hpoint, add_sub_cancel_left] at numeral
      rw [if_neg hpositional, ← hpoint]
      exact ofChars?_of_minus numeral hrounds

end DecimalLayout

end EventRules
