import Formula.Proofs.Number.Order
import Formula.Proofs.Number.Shortest

/-!
Rounding to decimal places. A rational is rounded half away from zero to a multiple of a power of
ten, and decimals are rounded as the rationals that they stand for, whatever the places: the digits
that are allowed for a result are as many as it can have.
-/

namespace Formula

/-! ### Rationals -/

/-- A rational rounded to a multiple of `10 ^ -places`, half away from zero. -/
def roundHalfAway (q : ℚ) (places : ℤ) : ℚ :=
  SignType.sign q * ⌊|q| * 10 ^ places + 1 / 2⌋ / 10 ^ places

section

variable {q r : ℚ} {places : ℤ}

theorem roundHalfAway_zero : roundHalfAway 0 places = 0 := by
  rw [roundHalfAway, sign_zero, SignType.coe_zero, zero_mul, zero_div]

theorem roundHalfAway_neg : roundHalfAway (-q) places = -roundHalfAway q places := by
  rw [roundHalfAway, roundHalfAway, Left.sign_neg, abs_neg, SignType.coe_neg, neg_mul, neg_div]

theorem roundHalfAway_of_nonneg (nonneg : 0 ≤ q) :
    roundHalfAway q places = ⌊q * 10 ^ places + 1 / 2⌋ / 10 ^ places := by
  rcases nonneg.eq_or_lt with rfl | positive
  · rw [roundHalfAway_zero, zero_mul, zero_add, show ⌊(1 / 2 : ℚ)⌋ = 0 by norm_num, Int.cast_zero,
      zero_div]
  · rw [roundHalfAway, sign_pos positive, SignType.coe_one, one_mul, abs_of_nonneg nonneg]

theorem roundHalfAway_nonneg (nonneg : 0 ≤ q) : 0 ≤ roundHalfAway q places := by
  have unit : (0 : ℚ) < 10 ^ places := zpow_pos (by norm_num) _
  rw [roundHalfAway_of_nonneg nonneg]
  exact div_nonneg (Int.cast_nonneg (Int.floor_nonneg.mpr (by positivity))) unit.le

/-- What holds of the nonnegative rationals, and of opposite ones together, holds of all. -/
@[elab_as_elim]
theorem sign_induction {motive : ℚ → Prop} (q : ℚ) (nonneg : ∀ q, 0 ≤ q → motive q)
    (opposite : ∀ q, motive q → motive (-q)) : motive q := by
  rcases le_total 0 q with above | below
  · exact nonneg q above
  · rw [← neg_neg q]
    exact opposite (-q) (nonneg (-q) (neg_nonneg.mpr below))

theorem roundHalfAway_near (q : ℚ) (places : ℤ) :
    |roundHalfAway q places - q| ≤ 10 ^ (-places) / 2 := by
  have unit : (0 : ℚ) < 10 ^ places := zpow_pos (by norm_num) _
  induction q using sign_induction with
  | nonneg q nonneg =>
      have below := Int.floor_le (q * 10 ^ places + 1 / 2)
      have above := Int.lt_floor_add_one (q * 10 ^ places + 1 / 2)
      have apart : |⌊q * 10 ^ places + 1 / 2⌋ - q * 10 ^ places| ≤ 1 / 2 :=
        abs_le.mpr ⟨by linarith, by linarith⟩
      rw [roundHalfAway_of_nonneg nonneg, zpow_neg, div_sub' unit.ne', abs_div, abs_of_pos unit,
        div_le_iff₀ unit, div_mul_eq_mul_div, inv_mul_cancel₀ unit.ne', mul_comm _ q]
      exact apart
  | opposite q near => rwa [roundHalfAway_neg, neg_sub_neg, abs_sub_comm]

theorem exists_multiple_roundHalfAway (q : ℚ) (places : ℤ) :
    ∃ k : ℤ, roundHalfAway q places = k * 10 ^ (-places) := by
  refine ⟨SignType.sign q * ⌊|q| * 10 ^ places + 1 / 2⌋, ?_⟩
  rw [roundHalfAway, zpow_neg, div_eq_mul_inv]
  push_cast
  rfl

/-- In the middle between two multiples the one further from zero is taken. -/
theorem lt_roundHalfAway_of_middle (middle : |roundHalfAway q places - q| = 10 ^ (-places) / 2) :
    |q| < |roundHalfAway q places| := by
  have unit : (0 : ℚ) < 10 ^ places := zpow_pos (by norm_num) _
  induction q using sign_induction with
  | nonneg q nonneg =>
      rw [abs_of_nonneg nonneg, abs_of_nonneg (roundHalfAway_nonneg nonneg)]
      by_contra! less
      have above := Int.lt_floor_add_one (q * 10 ^ places + 1 / 2)
      rw [abs_of_nonpos (sub_nonpos.mpr less), roundHalfAway_of_nonneg nonneg, zpow_neg] at middle
      generalize ⌊q * 10 ^ places + 1 / 2⌋ = k at above middle
      field_simp at middle
      linarith
  | opposite q away =>
      rw [roundHalfAway_neg, abs_neg, abs_neg]
      rw [roundHalfAway_neg, neg_sub_neg, abs_sub_comm] at middle
      exact away middle

theorem roundHalfAway_of_multiple {k : ℤ} (multiple : q = k * 10 ^ (-places)) :
    roundHalfAway q places = q := by
  have unit : (0 : ℚ) < 10 ^ places := zpow_pos (by norm_num) _
  have whole : q * 10 ^ places = k := by
    rw [multiple, mul_assoc, zpow_neg, inv_mul_cancel₀ unit.ne', mul_one]
  clear multiple
  induction q using sign_induction generalizing k with
  | nonneg q nonneg =>
      have floor : ⌊(k : ℚ) + 1 / 2⌋ = k := by
        rw [Int.floor_intCast_add]
        norm_num
      rw [roundHalfAway_of_nonneg nonneg, whole, floor, ← whole, mul_div_cancel_right₀ _ unit.ne']
  | opposite q unchanged =>
      rw [roundHalfAway_neg, unchanged (k := -k)]
      push_cast
      linarith

theorem roundHalfAway_of_small (small : |q| < 10 ^ (-places) / 2) : roundHalfAway q places = 0 := by
  have unit : (0 : ℚ) < 10 ^ places := zpow_pos (by norm_num) _
  have scaled : |q| * 10 ^ places < 1 / 2 := by
    have := mul_lt_mul_of_pos_right small unit
    rwa [zpow_neg, div_mul_eq_mul_div, inv_mul_cancel₀ unit.ne'] at this
  have floor : ⌊|q| * 10 ^ places + 1 / 2⌋ = 0 := by
    rw [Int.floor_eq_zero_iff]
    exact ⟨by positivity, by linarith⟩
  rw [roundHalfAway, floor, Int.cast_zero, mul_zero, zero_div]

theorem roundHalfAway_mono (le : q ≤ r) : roundHalfAway q places ≤ roundHalfAway r places := by
  have unit : (0 : ℚ) < 10 ^ places := zpow_pos (by norm_num) _
  have nonneg {q r : ℚ} (positive : 0 ≤ q) (le : q ≤ r) :
      roundHalfAway q places ≤ roundHalfAway r places := by
    rw [roundHalfAway_of_nonneg positive, roundHalfAway_of_nonneg (positive.trans le)]
    gcongr
  rcases le_total 0 q with positive | negative
  · exact nonneg positive le
  · rcases le_total 0 r with positive' | negative'
    · have below : 0 ≤ roundHalfAway (-q) places := roundHalfAway_nonneg (neg_nonneg.mpr negative)
      rw [roundHalfAway_neg] at below
      exact (neg_nonneg.mp below).trans (roundHalfAway_nonneg positive')
    · have opposite := nonneg (neg_nonneg.mpr negative') (neg_le_neg le)
      rwa [roundHalfAway_neg, roundHalfAway_neg, neg_le_neg_iff] at opposite

end

/-! ### Decimals -/

namespace Decimal

/-- The rational that a decimal stands for. -/
def value (d : Decimal) : ℚ := Binary.signed d.negative d.coefficient * 10 ^ d.exponent

variable {d r : Decimal} {exponent : Int} {digits : Nat}

theorem value_eq (d : Decimal) : d.value = (if d.negative then -1 else 1) * d.magnitude := by
  rw [value, magnitude, Binary.cast_signed, mul_assoc]

theorem magnitude_nonneg (d : Decimal) : 0 ≤ d.magnitude :=
  mul_nonneg (Nat.cast_nonneg _) (zpow_pos (by norm_num) _).le

theorem abs_value (d : Decimal) : |d.value| = d.magnitude := by
  rw [value_eq, abs_mul, abs_of_nonneg d.magnitude_nonneg]
  split <;> norm_num

/-- Rounding the magnitude and keeping the sign is rounding the value. -/
theorem value_eq_roundHalfAway {places : ℤ} (sign : r.negative = d.negative)
    (rounded : r.magnitude = roundHalfAway d.magnitude places) :
    r.value = roundHalfAway d.value places := by
  rw [value_eq, value_eq, sign, rounded]
  split
  · rw [neg_one_mul, neg_one_mul, roundHalfAway_neg]
  · rw [one_mul, one_mul]

theorem roundHalfUp_eq (n drop : Nat) :
    (roundHalfUp n drop : ℤ) = ⌊(n / 10 ^ drop + 1 / 2 : ℚ)⌋ := by
  have unit : (0 : ℚ) < 10 ^ drop := by positivity
  have quotient : (n / 10 ^ drop + 1 / 2 : ℚ) =
      ((2 * n + tenTo drop : Nat) : ℚ) / (2 * tenTo drop : Nat) := by
    push_cast
    rw [cast_tenTo]
    field_simp
  rw [quotient, Rat.floor_natCast_div_natCast]
  rfl

/-- The coefficient before rounding, in the new units. -/
theorem shifted_eq (d : Decimal) (exponent : Int) :
    ((d.coefficient * tenTo (d.exponent - exponent).toNat : Nat) /
      10 ^ (exponent - d.exponent).toNat : ℚ) = d.magnitude * 10 ^ (-exponent) := by
  have shift := cast_tenTo_eq (d.exponent - exponent)
  have ten : (10 : ℚ) ^ (d.exponent - exponent).toNat ≠ 0 := by positivity
  rw [neg_sub, cast_tenTo, cast_tenTo] at shift
  push_cast
  rw [cast_tenTo, shift, magnitude, zpow_sub₀ (by norm_num), zpow_neg]
  field_simp

/-- What a rounded decimal looks like: the sign is kept, the exponent is the one asked for, and the
magnitude is rounded. -/
theorem magnitude_of_quantize (rounded : d.quantize exponent digits = .ok r) :
    r.negative = d.negative ∧ r.exponent = exponent ∧
      r.magnitude = roundHalfAway d.magnitude (-exponent) := by
  unfold quantize at rounded
  dsimp only at rounded
  split at rounded
  · cases rounded
  · cases rounded
    refine ⟨rfl, rfl, ?_⟩
    have coefficient := roundHalfUp_eq (d.coefficient * tenTo (d.exponent - exponent).toNat)
      (exponent - d.exponent).toNat
    rw [shifted_eq] at coefficient
    rw [roundHalfAway_of_nonneg d.magnitude_nonneg, ← coefficient, zpow_neg, div_inv_eq_mul]
    rfl

/-! ### The digits of a result -/

/-- The powers of ten of a decimal are not so far out that rounding refuses them. -/
structure WithinReach (d : Decimal) : Prop where
  least : leastExponent usualDigits ≤ d.exponent
  greatest : d.leadingExponent < maxExponent

/-- A digit more than the whole part of the quotient is enough, as rounding may carry. -/
theorem digitCount_roundHalfUp_le {n drop width : Nat} (small : (n / 10 ^ drop : ℚ) < 10 ^ width) :
    digitCount (roundHalfUp n drop) ≤ width + 1 := by
  apply digitCount_le (Nat.succ_pos _)
  have whole : roundHalfUp n drop ≤ 10 ^ width := by
    have floor : (roundHalfUp n drop : ℤ) < 10 ^ width + 1 := by
      rw [roundHalfUp_eq, Int.floor_lt]
      push_cast
      linarith
    exact_mod_cast Int.lt_add_one_iff.mp floor
  calc roundHalfUp n drop
    _ ≤ 10 ^ width := whole
    _ < 10 ^ (width + 1) := Nat.pow_lt_pow_right (by decide) (Nat.lt_succ_self _)

/-- As many digits as the first digit and the places call for are enough. -/
theorem exists_quantize {places : Int} (within : d.WithinReach) (some : d.coefficient ≠ 0)
    (finer : d.exponent < -places) (reaches : -d.leadingExponent - 1 ≤ places) :
    ∃ r, d.quantize (-places) (max usualDigits (d.leadingExponent + places + 2).toNat) = .ok r := by
  obtain ⟨least, greatest⟩ := within
  have width : (d.magnitude * 10 ^ (-(-places)) : ℚ) <
      10 ^ (d.leadingExponent + 1 + places).toNat := by
    have unit : (0 : ℚ) < 10 ^ places := zpow_pos (by norm_num) _
    rw [neg_neg, ← zpow_natCast, Int.toNat_of_nonneg (by omega), zpow_add₀ (by norm_num)]
    exact mul_lt_mul_of_pos_right (leadingExponent_bounds some).2 unit
  rw [← shifted_eq] at width
  have enough := digitCount_roundHalfUp_le width
  unfold quantize
  dsimp only
  rw [if_neg]
  · exact ⟨_, rfl⟩
  · unfold leastExponent at least ⊢
    omega

theorem value_multiple {places : Int} (coarse : -places ≤ d.exponent) :
    ∃ k : ℤ, d.value = k * 10 ^ (-places) := by
  refine ⟨Binary.signed d.negative d.coefficient * 10 ^ (d.exponent + places).toNat, ?_⟩
  push_cast
  rw [value, mul_assoc, ← zpow_natCast, Int.toNat_of_nonneg (by omega),
    ← zpow_add₀ (by norm_num), add_neg_cancel_right]

theorem abs_value_lt {places : Int}
    (nothing : d.coefficient = 0 ∨ places < -d.leadingExponent - 1) :
    |d.value| < 10 ^ (-places) / 2 := by
  have unit : (0 : ℚ) < 10 ^ (-places) := zpow_pos (by norm_num) _
  rw [abs_value]
  by_cases zero : d.coefficient = 0
  · rw [magnitude, zero, Nat.cast_zero, zero_mul]
    exact half_pos unit
  · have below := nothing.resolve_left zero
    have tenth : (10 : ℚ) ^ (d.leadingExponent + 1) ≤ 10 ^ (-places - 1) :=
      zpow_le_zpow_right₀ (by norm_num) (by omega)
    rw [zpow_sub₀ (by norm_num), zpow_one] at tenth
    have := (leadingExponent_bounds zero).2
    linarith

/-- A decimal rounded to places: a multiple of the unit of the last place or of one, with the value
rounded half away from zero. -/
theorem roundTo_returns (within : d.WithinReach) (places : Int) :
    ∃ r, d.roundTo places = .ok r ∧ min (-places) 0 ≤ r.exponent ∧
      r.value = roundHalfAway d.value places := by
  unfold roundTo
  split
  · rename_i coarse
    obtain ⟨k, multiple⟩ := value_multiple coarse
    exact ⟨d, rfl, (min_le_left _ _).trans coarse, (roundHalfAway_of_multiple multiple).symm⟩
  · rename_i fine
    split
    · rename_i nothing
      refine ⟨_, rfl, min_le_right _ _, ?_⟩
      rw [roundHalfAway_of_small (abs_value_lt nothing), value]
      simp [Binary.signed]
    · rename_i some
      rw [not_or] at some
      obtain ⟨r, rounded⟩ := exists_quantize within some.1 (not_le.mp fine) (not_lt.mp some.2)
      obtain ⟨sign, exponent, magnitude⟩ := magnitude_of_quantize rounded
      refine ⟨r, rounded, exponent ▸ min_le_left _ _, ?_⟩
      rw [neg_neg] at magnitude
      exact value_eq_roundHalfAway sign magnitude

theorem toInt_eq (whole : 0 ≤ d.exponent) : (d.toInt : ℚ) = d.value := by
  unfold toInt value
  dsimp only
  rw [if_neg (not_lt.mpr whole), Binary.signed_mul]
  push_cast
  rw [cast_tenTo, ← zpow_natCast, Int.toNat_of_nonneg whole]

end Decimal

end Formula
