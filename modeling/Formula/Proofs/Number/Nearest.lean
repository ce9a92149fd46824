import Formula.Number.Decimal
import Formula.Proofs.Number.Binary

/-!
The float next to a quotient. Every finite float has a neighbourhood of rationals, and each of them
is rounded to that float.
-/

namespace Formula.Binary

/-! ### The significands and exponents of finite floats -/

/-- What the bits of a finite float can stand for: a significand has 53 bits at most, and fewer than
that only with the smallest exponent. -/
structure Legal (significand : Nat) (exponent : Int) : Prop where
  short : significand < 2 ^ 53
  least : minExponent ≤ exponent
  greatest : exponent ≤ 971
  normal : significand < 2 ^ 52 → exponent = minExponent

/-- The bits of a float without its sign. -/
def magnitudeOf (significand : Nat) (exponent : Int) : Nat :=
  (exponent - minExponent).toNat * hiddenBit + significand

theorem Legal.magnitudeOf_lt {m : Nat} {e : Int} (legal : Legal m e) :
    magnitudeOf m e < infinityBits := by
  obtain ⟨short, least, greatest, -⟩ := legal
  have steps : (e - minExponent).toNat ≤ 2045 := by
    unfold minExponent
    omega
  rw [magnitudeOf, hiddenBit_eq, infinityBits_eq]
  omega

/-- Twice the least normal significand is the next power of two. -/
theorem magnitudeOf_double {e : Int} (least : minExponent ≤ e - 1) :
    magnitudeOf (2 ^ 53) (e - 1) = magnitudeOf (2 ^ 52) e := by
  have steps : (e - minExponent).toNat = (e - 1 - minExponent).toNat + 1 := by omega
  rw [magnitudeOf, magnitudeOf, hiddenBit_eq, steps]
  omega

theorem ofBits_eq_finite {bits m : Nat} {negative : Bool} {e : Int} (word : bits < 2 ^ 64)
    (finite : ofBits bits = .finite negative m e) :
    Legal m e ∧ bits = if negative then signBit + magnitudeOf m e else magnitudeOf m e := by
  unfold ofBits at finite
  dsimp only at finite
  rw [hiddenBit_eq, signBit_eq] at finite
  rw [signBit_eq, magnitudeOf, hiddenBit_eq]
  split at finite
  · split at finite <;> cases finite
  · split at finite
    · cases finite
      refine ⟨⟨by omega, by decide, by decide, fun _ => rfl⟩, ?_⟩
      simp only [Int.sub_self, Int.toNat_zero, Nat.zero_mul, Nat.zero_add, decide_eq_true_eq]
      split <;> omega
    · cases finite
      have steps : (minExponent + (bits / 2 ^ 52 % 2048 : Nat) - 1 - minExponent).toNat =
          bits / 2 ^ 52 % 2048 - 1 := by omega
      refine ⟨⟨by omega, ?_, ?_, fun small => by omega⟩, ?_⟩
      · omega
      · unfold minExponent
        omega
      · rw [steps]
        simp only [decide_eq_true_eq]
        split <;> omega

/-- A finite float is put together from what its bits stand for. -/
theorem assemble_of_ofFloat {x : Float} {negative : Bool} {m : Nat} {e : Int}
    (finite : ofFloat x = .finite negative m e) :
    Legal m e ∧ assemble negative (magnitudeOf m e) = x := by
  obtain ⟨legal, bits⟩ := ofBits_eq_finite x.toBits.toNat_lt finite
  refine ⟨legal, ?_⟩
  rw [assemble, ← bits, UInt64.ofNat_toNat, Float.ofBits_toBits]

theorem exists_of_isFinite {x : Float} (finite : x.isFinite = true) :
    ∃ negative m e, ofFloat x = .finite negative m e := by
  have field := isFinite_ofBits x.toBits
  rw [Float.ofBits_toBits] at field
  have other : ¬ x.toBits.toNat / 2 ^ 52 % 2048 = 2047 := field.mp finite
  unfold ofFloat ofBits
  dsimp only
  rw [hiddenBit_eq, if_neg other]
  split
  · exact ⟨_, _, _, rfl⟩
  · exact ⟨_, _, _, rfl⟩

/-! ### Quotients in units -/

section

variable {n d : Nat}

theorem inUnits_snd_pos (positive : 0 < d) (unit : Int) : 0 < (inUnits n d unit).2 := by
  unfold inUnits
  split
  · exact positive
  · exact Nat.mul_pos positive (Nat.two_pow_pos _)

theorem cast_twoTo (k : Nat) : (twoTo k : ℚ) = 2 ^ k := by
  rw [twoTo, Nat.pow_eq, Nat.cast_pow, Nat.cast_ofNat]

theorem cast_twoTo_toNat {k : Int} (nonneg : 0 ≤ k) : (twoTo k.toNat : ℚ) = 2 ^ k := by
  rw [cast_twoTo, ← zpow_natCast, Int.toNat_of_nonneg nonneg]

/-- The quotient that is left is the old one in the new units. -/
theorem inUnits_eq (positive : 0 < d) (unit : Int) :
    ((inUnits n d unit).1 : ℚ) = n / d / 2 ^ unit * (inUnits n d unit).2 := by
  have nonzero : (d : ℚ) ≠ 0 := Nat.cast_ne_zero.mpr positive.ne'
  have power : (2 : ℚ) ^ unit ≠ 0 := zpow_ne_zero _ two_ne_zero
  unfold inUnits
  split
  · rename_i small
    push_cast
    rw [cast_twoTo_toNat (by omega), zpow_neg]
    field_simp
  · rename_i large
    push_cast
    rw [cast_twoTo_toNat (by omega)]
    field_simp

theorem inUnits_lt_iff (positive : 0 < d) (unit : Int) (k : Nat) :
    (inUnits n d unit).1 < k * (inUnits n d unit).2 ↔ (n / d : ℚ) < k * 2 ^ unit := by
  have units : (0 : ℚ) < (inUnits n d unit).2 := Nat.cast_pos.mpr (inUnits_snd_pos positive unit)
  have power : (0 : ℚ) < 2 ^ unit := zpow_pos two_pos _
  rw [← @Nat.cast_lt ℚ, Nat.cast_mul, inUnits_eq positive, mul_lt_mul_iff_left₀ units,
    div_lt_iff₀ power]

/-- The exponents of two natural numbers tell the size of their quotient up to a factor of two. -/
theorem quotient_bounds (numerator : n ≠ 0) (denominator : d ≠ 0) :
    (2 : ℚ) ^ ((n.log2 : Int) - d.log2 - 1) < n / d ∧
      (n / d : ℚ) < 2 ^ ((n.log2 : Int) - d.log2 + 1) := by
  have positive : (0 : ℚ) < d := Nat.cast_pos.mpr (Nat.pos_of_ne_zero denominator)
  have fromBelow : (2 : ℚ) ^ (n.log2 : Int) ≤ n := mod_cast Nat.log2_self_le numerator
  have fromAbove : (n : ℚ) < 2 ^ ((n.log2 : Int) + 1) := mod_cast @Nat.lt_log2_self n
  have least : (2 : ℚ) ^ (d.log2 : Int) ≤ d := mod_cast Nat.log2_self_le denominator
  have greatest : (d : ℚ) < 2 ^ ((d.log2 : Int) + 1) := mod_cast @Nat.lt_log2_self d
  constructor
  · rw [lt_div_iff₀ positive]
    calc (2 : ℚ) ^ ((n.log2 : Int) - d.log2 - 1) * d
      _ < 2 ^ ((n.log2 : Int) - d.log2 - 1) * 2 ^ ((d.log2 : Int) + 1) :=
        mul_lt_mul_of_pos_left greatest (zpow_pos two_pos _)
      _ = 2 ^ (n.log2 : Int) := by
        rw [← zpow_add₀ two_ne_zero]
        congr 1
        omega
      _ ≤ n := fromBelow
  · rw [div_lt_iff₀ positive]
    calc (n : ℚ)
      _ < 2 ^ ((n.log2 : Int) + 1) := fromAbove
      _ = 2 ^ ((n.log2 : Int) - d.log2 + 1) * 2 ^ (d.log2 : Int) := by
        rw [← zpow_add₀ two_ne_zero]
        congr 1
        omega
      _ ≤ 2 ^ ((n.log2 : Int) - d.log2 + 1) * d :=
        mul_le_mul_of_nonneg_left least (zpow_pos two_pos _).le

/-- In units of the exponent a quotient has 53 bits, or fewer with the smallest exponent. -/
theorem exponentFor_bounds (numerator : n ≠ 0) (denominator : d ≠ 0) :
    minExponent ≤ exponentFor n d ∧ (n / d : ℚ) < 2 ^ (exponentFor n d + 53) ∧
      (minExponent < exponentFor n d → (2 : ℚ) ^ (exponentFor n d + 52) ≤ n / d) := by
  obtain ⟨above, below⟩ := quotient_bounds numerator denominator
  have test := @inUnits_lt_iff n d (Nat.pos_of_ne_zero denominator)
    ((n.log2 : Int) - d.log2 - 52) hiddenBit
  have middle : (hiddenBit : ℚ) * 2 ^ ((n.log2 : Int) - d.log2 - 52) =
      2 ^ ((n.log2 : Int) - d.log2) := by
    rw [hiddenBit_eq, Nat.cast_pow, Nat.cast_ofNat, ← zpow_natCast, ← zpow_add₀ two_ne_zero]
    congr 1
    omega
  rw [middle] at test
  have grows {a b : Int} (less : a ≤ b) : (2 : ℚ) ^ a ≤ 2 ^ b :=
    zpow_le_zpow_right₀ one_le_two less
  unfold exponentFor
  dsimp only
  generalize (n.log2 : Int) - d.log2 = size at *
  refine ⟨le_max_left _ _, ?_⟩
  split
  · rename_i small
    have quotient := test.mp small
    refine ⟨quotient.trans_le (grows (by omega)), fun normal => ?_⟩
    rw [max_eq_right (by omega)]
    exact le_trans (grows (by omega)) above.le
  · rename_i large
    have quotient := not_lt.mp fun small => large (test.mpr small)
    refine ⟨below.trans_le (grows (by omega)), fun normal => ?_⟩
    rw [max_eq_right (by omega)]
    exact le_trans (grows (by omega)) quotient

end

/-! ### Rounding -/

/-- A quotient is rounded to a whole number that is at most half away, the even one of two. -/
theorem roundQuotient_eq {a b m : Nat} (positive : 0 < b) (least : 2 * m * b ≤ 2 * a + b)
    (greatest : 2 * a ≤ 2 * m * b + b)
    (even : m % 2 = 0 ∨ (2 * m * b < 2 * a + b ∧ 2 * a < 2 * m * b + b)) :
    roundQuotient a b = m := by
  have split := Nat.div_add_mod a b
  have small := Nat.mod_lt a positive
  unfold roundQuotient
  dsimp only
  generalize a / b = quotient at split ⊢
  generalize a % b = remainder at split small ⊢
  rcases Nat.lt_trichotomy quotient m with below | rfl | above
  · obtain ⟨more, rfl⟩ := Nat.exists_eq_add_of_lt below
    have product : 2 * (quotient + more + 1) * b = 2 * (b * quotient) + 2 * (more * b) + 2 * b := by
      ring
    have next : more = 0 := by
      by_contra further
      have := Nat.le_mul_of_pos_left b (Nat.pos_of_ne_zero further)
      omega
    subst next
    rw [if_pos (by omega)]
  · have product : 2 * quotient * b = 2 * (b * quotient) := by ring
    rw [if_neg (by omega)]
  · obtain ⟨more, rfl⟩ := Nat.exists_eq_add_of_lt above
    have product : b * (m + more + 1) = b * m + b * more + b := by ring
    have same : 2 * m * b = 2 * (b * m) := by ring
    omega

theorem roundQuotient_of_near {a b m : Nat} {x : ℚ} (positive : 0 < b) (value : (a : ℚ) = x * b)
    (least : (m : ℚ) - 1 / 2 ≤ x) (greatest : x ≤ m + 1 / 2)
    (even : m % 2 = 0 ∨ ((m : ℚ) - 1 / 2 < x ∧ x < m + 1 / 2)) : roundQuotient a b = m := by
  have units : (0 : ℚ) < b := Nat.cast_pos.mpr positive
  have less {y z : ℚ} (h : y ≤ z) : y * b ≤ z * b := mul_le_mul_of_nonneg_right h units.le
  have below {y z : ℚ} (h : y < z) : y * b < z * b := mul_lt_mul_of_pos_right h units
  refine roundQuotient_eq positive ?_ ?_ (even.imp_right fun inner => ⟨?_, ?_⟩)
  · rw [← @Nat.cast_le ℚ]
    push_cast
    linarith [less least]
  · rw [← @Nat.cast_le ℚ]
    push_cast
    linarith [less greatest]
  · rw [← @Nat.cast_lt ℚ]
    push_cast
    linarith [below inner.1]
  · rw [← @Nat.cast_lt ℚ]
    push_cast
    linarith [below inner.2]

/-- The float next to a quotient has the significand to which the quotient is rounded in the units
of its exponent. -/
theorem nearest_eq {n d m : Nat} {exponent : Int} (numerator : n ≠ 0)
    (fits : exponentFor n d = exponent)
    (rounded : roundQuotient (inUnits n d exponent).1 (inUnits n d exponent).2 = m)
    (finite : magnitudeOf m exponent < infinityBits) (negative : Bool) :
    nearest negative n d = assemble negative (magnitudeOf m exponent) := by
  unfold nearest
  dsimp only
  rw [if_neg numerator, fits, rounded]
  exact congrArg (assemble negative) (Nat.min_eq_left finite.le)

end Formula.Binary

namespace Formula.Decimal

open Formula.Binary

/-- A rational lies in a neighbourhood. -/
structure Neighbourhood.Holds (r : Neighbourhood) (q : ℚ) : Prop where
  least : r.low * 2 ^ r.exponent ≤ q
  greatest : q ≤ r.high * 2 ^ r.exponent
  inner : r.closed = false → r.low * 2 ^ r.exponent < q ∧ q < r.high * 2 ^ r.exponent

section

variable {m n d : Nat} {e : Int}

/-- Neighbourhoods are counted in quarters of the last digit. -/
theorem quarter_eq (e : Int) : (2 : ℚ) ^ (e - 2) = 2 ^ e / 4 := by
  rw [zpow_sub₀ two_ne_zero]
  norm_num

/-- In units of the last digit, the neighbourhood of a float reaches half a unit to both sides. -/
theorem neighbourhood_low (positive : m ≠ 0) :
    ((neighbourhood m e).low : ℚ) * 2 ^ (neighbourhood m e).exponent =
      (m - if m = 2 ^ 52 ∧ e ≠ minExponent then 1 / 4 else 1 / 2) * 2 ^ e := by
  unfold neighbourhood
  dsimp only
  rw [quarter_eq, hiddenBit_eq]
  split
  · rw [Nat.cast_sub (by omega)]
    push_cast
    ring
  · rw [Nat.cast_sub (by omega)]
    push_cast
    ring

theorem neighbourhood_high :
    ((neighbourhood m e).high : ℚ) * 2 ^ (neighbourhood m e).exponent = (m + 1 / 2) * 2 ^ e := by
  unfold neighbourhood
  dsimp only
  rw [quarter_eq]
  push_cast
  ring

/-- Nothing in the neighbourhood of a float is closer to zero than half a unit. -/
theorem Neighbourhood.Holds.half_le {q : ℚ} (holds : (neighbourhood m e).Holds q)
    (positive : m ≠ 0) : 1 / 2 * 2 ^ e ≤ q := by
  have whole : (1 : ℚ) ≤ m := mod_cast Nat.one_le_iff_ne_zero.mpr positive
  have least := holds.least
  rw [neighbourhood_low positive] at least
  refine (mul_le_mul_of_nonneg_right ?_ (zpow_pos two_pos e).le).trans least
  split <;> linarith

theorem Neighbourhood.Holds.ne_zero {q : ℚ} (holds : (neighbourhood m e).Holds q)
    (positive : m ≠ 0) : q ≠ 0 :=
  ((mul_pos one_half_pos (zpow_pos two_pos e)).trans_le (holds.half_le positive)).ne'

/-- Whatever lies in the neighbourhood of a float has no greater exponent than the float. -/
theorem exponentFor_le (legal : Legal m e) (numerator : n ≠ 0) (denominator : d ≠ 0)
    (holds : (neighbourhood m e).Holds (n / d)) : exponentFor n d ≤ e := by
  obtain ⟨-, -, large⟩ := exponentFor_bounds numerator denominator
  have unit : (0 : ℚ) < 2 ^ e := zpow_pos two_pos _
  have short : (m : ℚ) + 1 ≤ 2 ^ 53 := mod_cast legal.short
  have greatest := holds.greatest
  rw [neighbourhood_high] at greatest
  by_contra! greater
  refine absurd (large (legal.least.trans_lt greater)) (not_le.mpr ?_)
  calc (n / d : ℚ)
    _ ≤ (m + 1 / 2) * 2 ^ e := greatest
    _ < 2 ^ 53 * 2 ^ e := mul_lt_mul_of_pos_right (by linarith) unit
    _ = 2 ^ (e + 53) := by rw [zpow_add₀ two_ne_zero, mul_comm]; rfl
    _ ≤ 2 ^ (exponentFor n d + 52) := zpow_le_zpow_right₀ one_le_two (by omega)

/-- What lies in the neighbourhood of a float but has a smaller exponent lies just below a power of
two. -/
theorem exponentFor_lt (legal : Legal m e) (positive : m ≠ 0) (numerator : n ≠ 0)
    (denominator : d ≠ 0) (holds : (neighbourhood m e).Holds (n / d))
    (smaller : exponentFor n d < e) : m = 2 ^ 52 ∧ exponentFor n d = e - 1 := by
  obtain ⟨least, small, -⟩ := exponentFor_bounds numerator denominator
  have unit : (0 : ℚ) < 2 ^ e := zpow_pos two_pos _
  have normal : 2 ^ 52 ≤ m := not_lt.mp fun subnormal => by
    have := legal.normal subnormal
    omega
  have below := holds.least
  rw [neighbourhood_low positive] at below
  have bound {k : Int} (fits : exponentFor n d + 53 ≤ e + k) : (n / d : ℚ) < 2 ^ k * 2 ^ e := by
    rw [← zpow_add₀ two_ne_zero, add_comm]
    exact small.trans_le (zpow_le_zpow_right₀ one_le_two fits)
  have power : m = 2 ^ 52 := by
    by_contra other
    rw [if_neg fun both => other both.1] at below
    have next : (2 : ℚ) ^ 52 + 1 ≤ m := mod_cast (show 2 ^ 52 + 1 ≤ m by omega)
    have above : (2 : ℚ) ^ (52 : Int) * 2 ^ e ≤ (m - 1 / 2) * 2 ^ e := by
      refine mul_le_mul_of_nonneg_right ?_ unit.le
      rw [show (2 : ℚ) ^ (52 : Int) = 2 ^ 52 from rfl]
      linarith
    exact absurd (above.trans below) (not_le.mpr (bound (by omega)))
  refine ⟨power, ?_⟩
  by_contra other
  rw [if_pos ⟨power, by omega⟩, power] at below
  have above : (2 : ℚ) ^ (51 : Int) * 2 ^ e ≤ ((2 ^ 52 : Nat) - 1 / 4) * 2 ^ e :=
    mul_le_mul_of_nonneg_right (by norm_num) unit.le
  exact absurd (above.trans below) (not_le.mpr (bound (by omega)))

/-- A quotient in the neighbourhood of a float is rounded to that float. -/
theorem nearest_of_holds (legal : Legal m e) (positive : m ≠ 0) (denominator : d ≠ 0)
    (holds : (neighbourhood m e).Holds (n / d)) (negative : Bool) :
    nearest negative n d = assemble negative (magnitudeOf m e) := by
  have unit : (0 : ℚ) < 2 ^ e := zpow_pos two_pos _
  have least := holds.least
  have greatest := holds.greatest
  have inner := holds.inner
  rw [neighbourhood_low positive] at least inner
  rw [neighbourhood_high] at greatest inner
  have width : (if m = 2 ^ 52 ∧ e ≠ minExponent then (1 / 4 : ℚ) else 1 / 2) ≤ 1 / 2 := by
    split <;> norm_num
  have numerator : n ≠ 0 := by
    rintro rfl
    exact holds.ne_zero positive (by rw [Nat.cast_zero, zero_div])
  have units := inUnits_snd_pos (n := n) (Nat.pos_of_ne_zero denominator)
  have value := inUnits_eq (n := n) (Nat.pos_of_ne_zero denominator)
  rcases (exponentFor_le legal numerator denominator holds).lt_or_eq with smaller | same
  · obtain ⟨rfl, before⟩ := exponentFor_lt legal positive numerator denominator holds smaller
    have below := zpow_pos (two_pos (α := ℚ)) (e - 1)
    have unitEq : (2 : ℚ) ^ e = 2 * 2 ^ (e - 1) := by
      rw [← zpow_one_add₀ two_ne_zero]
      congr 1
      omega
    have small := (exponentFor_bounds numerator denominator).2.1
    have minimal := (exponentFor_bounds numerator denominator).1
    rw [before] at small minimal
    rw [← magnitudeOf_double minimal]
    refine nearest_eq numerator before
      (roundQuotient_of_near (units (e - 1)) (value (e - 1)) ?_ ?_ (.inl rfl)) ?_ negative
    · rw [le_div_iff₀ below]
      rw [if_pos ⟨rfl, by omega⟩, unitEq] at least
      push_cast at least ⊢
      linarith
    · rw [div_le_iff₀ below]
      rw [show e - 1 + 53 = (e - 1) + (53 : Nat) from rfl, zpow_add₀ two_ne_zero,
        zpow_natCast] at small
      push_cast
      linarith
    · rw [magnitudeOf_double minimal]
      exact legal.magnitudeOf_lt
  · refine nearest_eq numerator same (roundQuotient_of_near (units e) (value e) ?_ ?_ ?_)
      legal.magnitudeOf_lt negative
    · rw [le_div_iff₀ unit]
      exact le_trans (mul_le_mul_of_nonneg_right (by linarith) unit.le) least
    · rwa [div_le_iff₀ unit]
    · rw [lt_div_iff₀ unit, div_lt_iff₀ unit]
      rcases Nat.mod_two_eq_zero_or_one m with even | odd
      · exact .inl even
      · obtain ⟨above, below⟩ := inner (decide_eq_false (by omega))
        exact .inr ⟨lt_of_le_of_lt (mul_le_mul_of_nonneg_right (by linarith) unit.le) above, below⟩

end

end Formula.Decimal
