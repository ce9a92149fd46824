import Formula.Proofs.Number.Nearest

/-!
Division of floats. Significands are divided as whole numbers, and of the rest only two bits are
kept: whether it reaches half, and whether there is anything beside. They are enough for rounding,
so the quotient of two floats is the float next to the exact quotient.
-/

namespace Formula.Binary

open Float.Model (Format UnpackedFloat totalExponent)
open Float.Model.UnpackedFloat

/-! ### A quotient and the bits that are kept of its rest -/

/-- The whole part of a quotient, whether its rest reaches half, and whether the rest is anything but
nothing or half. -/
structure Holds (em : ExtendedMantissa) (a b : Nat) : Prop where
  mantissa : em.mantissa = a / b
  roundBit : em.roundBit = true ↔ b ≤ 2 * (a % b)
  stickyBit : em.stickyBit = true ↔ 2 * (a % b) ≠ 0 ∧ 2 * (a % b) ≠ b

section

variable {em : ExtendedMantissa} {a b : Nat}

theorem holds_divided (positive : 0 < b) :
    Holds (.ofMantissaAndAccuracy (a / b) (accuracyOfFraction (a % b) b)) a b := by
  unfold accuracyOfFraction
  split
  · rename_i whole
    exact ⟨rfl, iff_of_false nofun (by omega), iff_of_false nofun (by omega)⟩
  · rename_i broken
    rcases Nat.lt_trichotomy (2 * (a % b)) b with less | half | more
    · rw [Nat.compare_eq_lt.mpr less]
      exact ⟨rfl, iff_of_false nofun (by omega), iff_of_true rfl (by omega)⟩
    · rw [Nat.compare_eq_eq.mpr half]
      exact ⟨rfl, iff_of_true rfl (by omega), iff_of_false nofun (by omega)⟩
    · rw [Nat.compare_eq_gt.mpr more]
      exact ⟨rfl, iff_of_true rfl (by omega), iff_of_true rfl (by omega)⟩

/-- A bit of the whole part moves to the rest. -/
theorem Holds.shiftRightOne (holds : Holds em a b) (positive : 0 < b) :
    Holds em.shiftRightOne a (b * 2) := by
  obtain ⟨mantissa, roundBit, stickyBit⟩ := holds
  have rest := Nat.mod_mul (a := b) (b := 2) (x := a)
  have small := Nat.mod_lt a positive
  rcases Nat.mod_two_eq_zero_or_one (a / b) with even | odd
  · rw [even] at rest
    refine ⟨?_, ?_, ?_⟩
    · rw [ExtendedMantissa.shiftRightOne, mantissa, Nat.div_div_eq_div_mul]
    · rw [ExtendedMantissa.shiftRightOne, mantissa, even]
      exact iff_of_false nofun (by omega)
    · rw [ExtendedMantissa.shiftRightOne, Bool.or_eq_true, roundBit, stickyBit]
      omega
  · rw [odd] at rest
    refine ⟨?_, ?_, ?_⟩
    · rw [ExtendedMantissa.shiftRightOne, mantissa, Nat.div_div_eq_div_mul]
    · rw [ExtendedMantissa.shiftRightOne, mantissa, odd]
      exact iff_of_true rfl (by omega)
    · rw [ExtendedMantissa.shiftRightOne, Bool.or_eq_true, roundBit, stickyBit]
      omega

theorem Holds.shiftRight (holds : Holds em a b) (positive : 0 < b) (n : Nat) :
    Holds (em >>> n) a (b * 2 ^ n) := by
  induction n with
  | zero => rwa [Nat.pow_zero, Nat.mul_one]
  | succ n ih =>
      rw [Nat.pow_succ, ← Nat.mul_assoc]
      exact ih.shiftRightOne (Nat.mul_pos positive (Nat.two_pow_pos n))

theorem Holds.roundedMantissa (holds : Holds em a b) : em.roundedMantissa = roundQuotient a b := by
  obtain ⟨mantissa, roundBit, stickyBit⟩ := holds
  obtain ⟨whole, half, more⟩ := em
  dsimp only at mantissa roundBit stickyBit
  subst mantissa
  have parity := Nat.mod_two_eq_zero_or_one (a / b)
  unfold roundQuotient
  dsimp only
  cases half with
  | false =>
      have below : 2 * (a % b) < b := by simpa using roundBit
      rw [if_neg (by omega)]
      cases more <;> rfl
  | true =>
      have above : b ≤ 2 * (a % b) := roundBit.mp rfl
      cases more with
      | false =>
          have tie : 2 * (a % b) = b ∨ a % b = 0 := by
            have := stickyBit.not.mp Bool.false_ne_true
            omega
          change a / b + a / b % 2 = _
          split <;> omega
      | true =>
          have beside := stickyBit.mp rfl
          rw [if_pos (by omega)]
          rfl

end

/-! ### The exponent of a quotient -/

theorem targetExponent_eq (total : Int) :
    Format.binary64.targetExponent total = max (total - 53) minExponent := rfl

section

variable {a b : Nat} {unit e : Int}

/-- The exponent of a quotient is the only one in whose units it has 53 bits, or fewer with the
smallest exponent. -/
theorem exponentFor_unique {n d : Nat} (numerator : n ≠ 0) (denominator : d ≠ 0)
    (least : minExponent ≤ e) (small : (n / d : ℚ) < 2 ^ (e + 53))
    (large : minExponent < e → (2 : ℚ) ^ (e + 52) ≤ n / d) : exponentFor n d = e := by
  obtain ⟨least', small', large'⟩ := exponentFor_bounds numerator denominator
  have grows {k l : Int} (less : (2 : ℚ) ^ k < 2 ^ l) : k < l :=
    (zpow_lt_zpow_iff_right₀ one_lt_two).mp less
  rcases lt_trichotomy (exponentFor n d) e with below | same | above
  · have := grows ((large (by omega)).trans_lt small')
    omega
  · exact same
  · have := grows ((large' (by omega)).trans_lt small)
    omega

/-- The exponent that the whole part of a quotient asks for is that of the quotient, as long as it
was divided in units that are small enough. -/
theorem targetExponent_divided {n d : Nat} (numerator : n ≠ 0) (denominator : d ≠ 0)
    (positive : 0 < b) (value : (n / d : ℚ) = a / b * 2 ^ unit) (fine : unit ≤ exponentFor n d) :
    Format.binary64.targetExponent (totalExponent (a / b) unit) = exponentFor n d := by
  have scale : (0 : ℚ) < 2 ^ unit := zpow_pos two_pos _
  have units : (0 : ℚ) < b := Nat.cast_pos.mpr positive
  have below : (a / b : ℚ) < 2 ^ ((a / b).log2 + 1) := by
    rw [div_lt_iff₀ units]
    exact_mod_cast (Nat.div_lt_iff_lt_mul positive).mp (@Nat.lt_log2_self (a / b))
  rw [targetExponent_eq, totalExponent]
  symm
  apply exponentFor_unique numerator denominator (le_max_right _ _)
  · rw [value]
    calc (a / b : ℚ) * 2 ^ unit
      _ < 2 ^ ((a / b).log2 + 1) * 2 ^ unit := mul_lt_mul_of_pos_right below scale
      _ = 2 ^ (((a / b).log2 : Int) + 1 + unit) := by
        rw [zpow_add₀ two_ne_zero]
        rfl
      _ ≤ _ := zpow_le_zpow_right₀ one_le_two (by omega)
  · intro normal
    by_cases none : a / b = 0
    · -- less than one unit is left, so the exponent is the smallest one
      exfalso
      have less : (a / b : ℚ) < 1 := by
        rw [div_lt_one units]
        exact_mod_cast (Nat.div_eq_zero_iff_lt positive).mp none
      rw [none] at normal
      have short : ((0 : Nat).log2 : Int) = 0 := rfl
      have large := (exponentFor_bounds numerator denominator).2.2 (by omega)
      have little : (n / d : ℚ) < 2 ^ (exponentFor n d + 52) := by
        rw [value]
        calc (a / b : ℚ) * 2 ^ unit
          _ < 1 * 2 ^ unit := mul_lt_mul_of_pos_right less scale
          _ ≤ _ := by
            rw [one_mul]
            exact zpow_le_zpow_right₀ one_le_two (by omega)
      exact absurd large (not_le.mpr little)
    · have above : (2 : ℚ) ^ (a / b).log2 ≤ a / b := by
        rw [le_div_iff₀ units]
        exact_mod_cast (Nat.le_div_iff_mul_le positive).mp (Nat.log2_self_le none)
      rw [value, max_eq_left (by omega)]
      calc (2 : ℚ) ^ (((a / b).log2 : Int) + 1 + unit - 53 + 52)
        _ = 2 ^ (a / b).log2 * 2 ^ unit := by
          rw [← zpow_natCast, ← zpow_add₀ two_ne_zero]
          congr 1
          omega
        _ ≤ _ := mul_le_mul_of_nonneg_right above scale.le

end

/-! ### The significand of a quotient -/

section

variable {a b c d k : Nat}

/-- Rounding goes to a whole number that is at most half away, the even one of two. -/
theorem roundQuotient_near (positive : 0 < b) :
    2 * roundQuotient a b * b ≤ 2 * a + b ∧ 2 * a ≤ 2 * roundQuotient a b * b + b ∧
      (roundQuotient a b % 2 = 0 ∨
        2 * roundQuotient a b * b < 2 * a + b ∧ 2 * a < 2 * roundQuotient a b * b + b) := by
  have split := Nat.div_add_mod a b
  have small := Nat.mod_lt a positive
  unfold roundQuotient
  dsimp only
  generalize a / b = quotient at split ⊢
  generalize a % b = remainder at split small ⊢
  have product : 2 * quotient * b = 2 * (b * quotient) := by ring
  have next : 2 * (quotient + 1) * b = 2 * (b * quotient) + 2 * b := by ring
  split
  · rw [next]
    omega
  · rw [product]
    omega

theorem roundQuotient_congr (positive : 0 < b) (positive' : 0 < d) (same : a * d = c * b) :
    roundQuotient c d = roundQuotient a b := by
  obtain ⟨least, greatest, even⟩ := roundQuotient_near (a := a) positive
  generalize roundQuotient a b = r at *
  have low : (2 * a + b) * d = (2 * c + d) * b := by
    rw [Nat.add_mul, Nat.mul_assoc, same]
    ring
  have high : 2 * r * b * d = 2 * r * d * b := Nat.mul_right_comm _ _ _
  have double : 2 * a * d = 2 * c * b := by rw [Nat.mul_assoc, same, Nat.mul_assoc]
  have half : (2 * r * b + b) * d = (2 * r * d + d) * b := by ring
  apply roundQuotient_eq positive'
  · apply Nat.le_of_mul_le_mul_right _ positive
    rw [← high, ← low]
    exact Nat.mul_le_mul_right d least
  · apply Nat.le_of_mul_le_mul_right _ positive
    rw [← double, ← half]
    exact Nat.mul_le_mul_right d greatest
  · refine even.imp_right fun inner => ⟨?_, ?_⟩
    · apply Nat.lt_of_mul_lt_mul_right (a := b)
      rw [← high, ← low]
      exact Nat.mul_lt_mul_of_pos_right inner.1 positive'
    · apply Nat.lt_of_mul_lt_mul_right (a := b)
      rw [← double, ← half]
      exact Nat.mul_lt_mul_of_pos_right inner.2 positive'

theorem roundQuotient_le_of_le (positive : 0 < b) (le : a ≤ k * b) : roundQuotient a b ≤ k := by
  have near := (roundQuotient_near (a := a) positive).1
  have double : 2 * roundQuotient a b * b ≤ (2 * k + 1) * b := by
    rw [Nat.add_mul, Nat.mul_assoc 2 k]
    omega
  have := Nat.le_of_mul_le_mul_right double positive
  omega

end

/-- The significand of the float next to a quotient. -/
def significandFor (n d : Nat) : Nat :=
  let scaled := inUnits n d (exponentFor n d)
  roundQuotient scaled.1 scaled.2

section

variable {n d : Nat}

theorem nearest_eq_assemble (numerator : n ≠ 0) (negative : Bool) :
    nearest negative n d = assemble negative
      (min (magnitudeOf (significandFor n d) (exponentFor n d)) infinityBits) := by
  unfold nearest
  dsimp only
  rw [if_neg numerator]
  rfl

theorem significandFor_bounds (numerator : n ≠ 0) (denominator : d ≠ 0) :
    significandFor n d ≤ 2 ^ 53 ∧
      (minExponent < exponentFor n d → 2 ^ 52 ≤ significandFor n d) := by
  have positive := Nat.pos_of_ne_zero denominator
  obtain ⟨-, small, large⟩ := exponentFor_bounds numerator denominator
  have units := inUnits_snd_pos (n := n) positive (exponentFor n d)
  constructor
  · apply roundQuotient_le_of_le units
    apply Nat.le_of_lt
    rw [inUnits_lt_iff positive]
    rwa [Nat.cast_pow, Nat.cast_ofNat, ← zpow_natCast, ← zpow_add₀ two_ne_zero, add_comm]
  · intro normal
    apply le_trans _ (le_roundQuotient _ _)
    rw [Nat.le_div_iff_mul_le units, ← not_lt, inUnits_lt_iff positive, not_lt]
    rw [Nat.cast_pow, Nat.cast_ofNat, ← zpow_natCast, ← zpow_add₀ two_ne_zero, add_comm]
    exact large normal

end

/-! ### The bits of a rounded float -/

def signOf (negative : Bool) : Sign := if negative then .negative else .positive

def wordOf (negative : Bool) (magnitude : Nat) : Nat :=
  if negative then signBit + magnitude else magnitude

theorem toNat_packComponents (negative : Bool) (exponent : BitVec 11) (mantissa : BitVec 52) :
    (packComponents Format.binary64 (signOf negative) exponent mantissa).toNat =
      wordOf negative (exponent.toNat * 2 ^ 52 + mantissa.toNat) := by
  have low := mantissa.isLt
  have middle := exponent.isLt
  have sign : (signOf negative).toBitVec.toNat = if negative then 1 else 0 := by
    cases negative <;> rfl
  unfold packComponents
  rw [BitVec.toNat_append, BitVec.toNat_append, ← Nat.shiftLeft_add_eq_or_of_lt low,
    ← Nat.shiftLeft_add_eq_or_of_lt middle, sign, Nat.shiftLeft_eq, Nat.shiftLeft_eq, wordOf,
    signBit_eq]
  cases negative with
  | false => simp
  | true =>
      simp only [if_true]
      omega

theorem toNat_pack {m : Nat} {e : Int} (negative : Bool) (positive : 0 < m) (short : m < 2 ^ 53)
    (least : minExponent ≤ e) (normal : m < 2 ^ 52 → e = minExponent) :
    (pack Format.binary64 (.finite (signOf negative) m e positive)).toNat =
      wordOf negative (min (magnitudeOf m e) infinityBits) := by
  have biased : (e + (Format.binary64.exponentBias : Nat) +
      (Format.binary64.mantissaBitsWithoutImplicit : Nat)).toNat = (e - minExponent).toNat + 1 := by
    change (e + 1023 + 52).toNat = _
    unfold minExponent at least ⊢
    omega
  have digits : m.log2 + 1 = Format.binary64.mantissaBits ↔ 2 ^ 52 ≤ m := by
    change m.log2 + 1 = 53 ↔ _
    rw [← Nat.le_log2 positive.ne']
    have := (Nat.log2_lt positive.ne').mpr short
    omega
  unfold pack
  dsimp only
  rw [biased]
  split
  · rename_i overflow
    change 2 ^ 11 ≤ _ at overflow
    rw [packedInfinity, toNat_packComponents, magnitudeOf, hiddenBit_eq, infinityBits_eq,
      min_eq_right]
    · rfl
    · unfold minExponent at normal overflow ⊢
      omega
  · rename_i fits
    change ¬ 2 ^ 11 ≤ _ at fits
    have finite : magnitudeOf m e < infinityBits := by
      rw [magnitudeOf, hiddenBit_eq, infinityBits_eq]
      omega
    rw [min_eq_left finite.le, magnitudeOf, hiddenBit_eq]
    split
    · rename_i full
      have large := digits.mp full
      have exponent : ((e - minExponent).toNat + 1) % 2 ^ 11 = (e - minExponent).toNat + 1 :=
        Nat.mod_eq_of_lt (by omega)
      have hidden : m % 2 ^ 52 = m - 2 ^ 52 := by omega
      rw [toNat_packComponents, BitVec.toNat_ofNat, BitVec.toNat_ofNat, exponent, hidden]
      refine congrArg (wordOf negative) ?_
      rw [Nat.succ_mul]
      omega
    · rename_i fewer
      have small := mt digits.mpr fewer
      rw [toNat_packComponents, BitVec.toNat_ofNat, normal (by omega)]
      refine congrArg (wordOf negative) ?_
      change 0 * 2 ^ 52 + m % 2 ^ 52 = 0 * 2 ^ 52 + m
      omega

/-! ### Rounding a divided quotient -/

theorem shiftToTargetExponent_eq {m : Nat} {unit e : Int} (accuracy : Accuracy)
    (target : Format.binary64.targetExponent (totalExponent m unit) = e) (le : unit ≤ e) :
    shiftToTargetExponent Format.binary64 m unit accuracy =
      (ExtendedMantissa.ofMantissaAndAccuracy m accuracy >>> (e - unit).toNat, e) := by
  unfold shiftToTargetExponent shiftToExponent
  dsimp only
  rw [target, Int.toNat_of_nonneg (by omega)]
  refine Prod.ext rfl ?_
  exact add_sub_cancel unit e

/-- A rounded significand that is too long by a bit loses that bit, which is zero. -/
theorem shiftToTargetExponent_rounded {m : Nat} {e : Int} (positive : m ≠ 0)
    (least : minExponent ≤ e) (short : m ≤ 2 ^ 53) (normal : minExponent < e → 2 ^ 52 ≤ m) :
    ∃ m' e', shiftToTargetExponent Format.binary64 m e .exact = (⟨m', false, false⟩, e') ∧
      0 < m' ∧ m' < 2 ^ 53 ∧ minExponent ≤ e' ∧ (m' < 2 ^ 52 → e' = minExponent) ∧
      magnitudeOf m' e' = magnitudeOf m e ∧ (m' * 2 ^ e' : ℚ) = m * 2 ^ e := by
  rcases Nat.lt_or_eq_of_le short with shorter | rfl
  · have digits := (Nat.log2_lt positive).mpr shorter
    refine ⟨m, e, ?_, Nat.pos_of_ne_zero positive, shorter, least, fun small => by omega, rfl, rfl⟩
    unfold shiftToTargetExponent shiftToExponent
    dsimp only
    rw [targetExponent_eq, totalExponent, Int.toNat_of_nonpos (by omega)]
    exact Prod.ext rfl (Int.add_zero e)
  · refine ⟨2 ^ 52, e + 1, ?_, by decide, by decide, by omega, nofun, ?_, ?_⟩
    · have digits : ((2 ^ 53 : Nat).log2 : Int) = 53 := by
        rw [Nat.log2_two_pow]
        rfl
      have target : Format.binary64.targetExponent (totalExponent (2 ^ 53) e) = e + 1 := by
        rw [targetExponent_eq, totalExponent, digits]
        omega
      rw [shiftToTargetExponent_eq .exact target (by omega), add_sub_cancel_left]
      rfl
    · have double := @magnitudeOf_double (e + 1) (by omega)
      rwa [add_sub_cancel_right, eq_comm] at double
    · rw [zpow_add₀ two_ne_zero]
      push_cast
      ring

section

variable {a b n d : Nat} {unit : Int}

/-- In the units of the exponent, what was divided is rounded to the significand of the quotient. -/
theorem significandFor_eq (denominator : d ≠ 0) (positive : 0 < b)
    (value : (n / d : ℚ) = a / b * 2 ^ unit) (fine : unit ≤ exponentFor n d) :
    roundQuotient a (b * 2 ^ (exponentFor n d - unit).toNat) = significandFor n d := by
  have units := inUnits_snd_pos (n := n) (Nat.pos_of_ne_zero denominator) (exponentFor n d)
  have scaled := inUnits_eq (n := n) (Nat.pos_of_ne_zero denominator) (exponentFor n d)
  apply roundQuotient_congr units (Nat.mul_pos positive (Nat.two_pow_pos _))
  rw [← @Nat.cast_inj ℚ]
  push_cast
  have shift : (2 : ℚ) ^ exponentFor n d = 2 ^ unit * 2 ^ (exponentFor n d - unit).toNat := by
    rw [← zpow_natCast, ← zpow_add₀ two_ne_zero]
    congr 1
    omega
  have nonzero : (b : ℚ) ≠ 0 := Nat.cast_ne_zero.mpr positive.ne'
  have power : (2 : ℚ) ^ unit ≠ 0 := zpow_ne_zero _ two_ne_zero
  rw [scaled, value, shift]
  field_simp

/-- A quotient that was divided in small enough units is packed as the float next to it. -/
theorem toNat_pack_divided (negative : Bool) (numerator : n ≠ 0) (denominator : d ≠ 0)
    (positive : 0 < b) (value : (n / d : ℚ) = a / b * 2 ^ unit) (fine : unit ≤ exponentFor n d) :
    (pack Format.binary64 (roundWithAccuracy Format.binary64 (signOf negative) (a / b) unit
        (accuracyOfFraction (a % b) b))).toNat =
      wordOf negative (min (magnitudeOf (significandFor n d) (exponentFor n d)) infinityBits) := by
  obtain ⟨least, -, -⟩ := exponentFor_bounds numerator denominator
  obtain ⟨short, normal⟩ := significandFor_bounds numerator denominator
  have first := shiftToTargetExponent_eq (accuracyOfFraction (a % b) b)
    (targetExponent_divided numerator denominator positive value fine) fine
  have rounded := ((holds_divided (a := a) positive).shiftRight positive
    (exponentFor n d - unit).toNat).roundedMantissa.trans
      (significandFor_eq denominator positive value fine)
  unfold roundWithAccuracy
  rw [first]
  dsimp only
  rw [rounded]
  by_cases zero : significandFor n d = 0
  · have smallest : exponentFor n d = minExponent := by omega
    rw [zero, smallest]
    exact toNat_packComponents negative 0#11 0#52
  · obtain ⟨m, e, second, some, shorter, least', normal', magnitude, -⟩ :=
      shiftToTargetExponent_rounded zero least short normal
    rw [second, ← magnitude]
    dsimp only
    rw [dif_neg some.ne']
    exact toNat_pack negative some shorter least' normal'

end

/-! ### Quotients of floats -/

theorem unpackMantissa_toNat (bits : BitVec 64) :
    (@unpackMantissa Format.binary64 bits).toNat = bits.toNat % 2 ^ 52 := by
  simp [unpackMantissa]

theorem unpackSign_eq (bits : BitVec 64) :
    Sign.ofBitVec (@unpackSign Format.binary64 bits) = signOf (signBit ≤ bits.toNat) := by
  have sign : (@unpackSign Format.binary64 bits).toNat = bits.toNat / 2 ^ 63 % 2 := by
    simp [unpackSign, Nat.shiftRight_eq_div_pow]
  have word := bits.isLt
  unfold Sign.ofBitVec
  rw [signBit_eq]
  split
  · rename_i positive
    rw [positive] at sign
    change 0 = _ at sign
    rw [decide_eq_false (by omega)]
    rfl
  · rename_i negative
    have one : ¬ (@unpackSign Format.binary64 bits).toNat = 0 :=
      fun zero => negative (BitVec.toNat_inj.mp zero)
    rw [decide_eq_true (by omega)]
    rfl

theorem unpackExponent_eq_iff (bits : BitVec 64) (field : BitVec 11) :
    @unpackExponent Format.binary64 bits = field ↔ bits.toNat / 2 ^ 52 % 2 ^ 11 = field.toNat := by
  change exponentField bits = field ↔ _
  rw [← BitVec.toNat_inj, exponentField_toNat]

theorem finite_congr {sign : Sign} {m m' : Nat} {e e' : Int} {some : 0 < m} {some' : 0 < m'}
    (significand : m = m') (exponent : e = e') :
    UnpackedFloat.finite sign m e some = .finite sign m' e' some' := by
  subst significand exponent
  rfl

theorem unpack_eq {bits : BitVec 64} {negative : Bool} {m : Nat} {e : Int}
    (finite : ofBits bits.toNat = .finite negative m e) :
    unpack Format.binary64 bits =
      if some : 0 < m then .finite (signOf negative) m e some else .zero (signOf negative) := by
  have infinite : @unpackExponent Format.binary64 bits = -1#11 ↔
      bits.toNat / 2 ^ 52 % 2048 = 2047 := unpackExponent_eq_iff bits _
  have subnormal : @unpackExponent Format.binary64 bits = 0#11 ↔
      bits.toNat / 2 ^ 52 % 2048 = 0 := unpackExponent_eq_iff bits _
  have mantissa := unpackMantissa_toNat bits
  have zeroMantissa : @unpackMantissa Format.binary64 bits = 0#52 ↔ bits.toNat % 2 ^ 52 = 0 := by
    rw [← BitVec.toNat_inj, mantissa]
    rfl
  unfold ofBits at finite
  dsimp only at finite
  rw [hiddenBit_eq] at finite
  unfold unpack
  dsimp only
  rw [unpackSign_eq]
  split
  · rename_i ones
    rw [if_pos (infinite.mp ones)] at finite
    split at finite <;> cases finite
  · rename_i other
    rw [if_neg (mt infinite.mpr other)] at finite
    split
    · rename_i zeros
      rw [if_pos (subnormal.mp zeros)] at finite
      cases finite
      by_cases zero : bits.toNat % 2 ^ 52 = 0
      · rw [dif_pos (zeroMantissa.mpr zero), dif_neg (by omega)]
      · rw [dif_neg (mt zeroMantissa.mp zero), dif_pos (by omega)]
        refine finite_congr mantissa ?_
        rw [zeros]
        rfl
    · rename_i normal
      rw [if_neg (mt subnormal.mpr normal)] at finite
      cases finite
      rw [dif_pos (by omega)]
      apply finite_congr
      · rw [BitVec.toNat_append, ← Nat.shiftLeft_add_eq_or_of_lt (BitVec.isLt _), mantissa]
        rfl
      · change (exponentField bits).toNat - (1023 + 52 : Int) = _
        rw [exponentField_toNat]
        unfold minExponent
        omega

theorem signOf_div (s t : Bool) : signOf s / signOf t = signOf (s ^^ t) := by
  cases s <;> cases t <;> rfl

theorem divCore_fine {m n : Nat} {e f : Int} (numerator : m ≠ 0) (denominator : n ≠ 0)
    {p q : Nat} (numerator' : p ≠ 0) (denominator' : q ≠ 0)
    (value : (p / q : ℚ) = m / n * 2 ^ (e - f)) :
    Format.binary64.targetExponent (totalExponent m e - totalExponent n f) ≤ exponentFor p q := by
  obtain ⟨least, small, -⟩ := exponentFor_bounds numerator' denominator'
  have below : (2 : ℚ) ^ ((m.log2 : Int) - n.log2 - 1 + (e - f)) < 2 ^ (exponentFor p q + 53) := by
    refine lt_trans ?_ small
    rw [value, zpow_add₀ two_ne_zero]
    exact mul_lt_mul_of_pos_right (quotient_bounds numerator denominator).1 (zpow_pos two_pos _)
  have less := (zpow_lt_zpow_iff_right₀ one_lt_two).mp below
  rw [targetExponent_eq]
  unfold totalExponent
  omega

/-- The rest of two exponents goes to the side where it is a whole power. -/
theorem quotient_eq (m n : Nat) (e f : Int) :
    ((m * twoTo (e - f).toNat : Nat) / (n * twoTo (f - e).toNat : Nat) : ℚ) =
      m / n * 2 ^ (e - f) := by
  push_cast
  rcases le_total f e with le | le
  · rw [cast_twoTo_toNat (by omega), Int.toNat_of_nonpos (show f - e ≤ 0 by omega)]
    simp [twoTo]
    ring
  · rw [cast_twoTo_toNat (show 0 ≤ f - e by omega), Int.toNat_of_nonpos (show e - f ≤ 0 by omega),
      ← neg_sub f e, zpow_neg]
    simp [twoTo]
    ring

/-- A quotient of two floats is the float next to the exact quotient. -/
theorem div_eq_nearest {x y : Float} {s t : Bool} {m n : Nat} {e f : Int}
    (dividend : ofFloat x = .finite s m e) (divisor : ofFloat y = .finite t n f) (nonzero : n ≠ 0) :
    x / y = nearest (s ^^ t) (m * twoTo (e - f).toNat) (n * twoTo (f - e).toNat) := by
  have left := @unpack_eq x.toBits.toBitVec _ _ _ dividend
  have right := @unpack_eq y.toBits.toBitVec _ _ _ divisor
  rw [dif_pos (Nat.pos_of_ne_zero nonzero)] at right
  have result : (x / y).toBits = UInt64.ofBitVec (pack Format.binary64
    (div Format.binary64 (unpack Format.binary64 x.toBits.toBitVec)
      (unpack Format.binary64 y.toBits.toBitVec))) := rfl
  have same {magnitude : Nat} (bits : (x / y).toBits.toNat = wordOf (s ^^ t) magnitude) :
      x / y = assemble (s ^^ t) magnitude := by
    rw [← Float.ofBits_toBits (x / y), ← UInt64.ofNat_toNat (x := (x / y).toBits), bits]
    rfl
  rw [left, right] at result
  by_cases zero : m = 0
  · subst zero
    rw [dif_neg (by omega)] at result
    rw [nearest, if_pos (Nat.zero_mul _)]
    apply same
    rw [result]
    change (packedZero Format.binary64 (signOf s / signOf t)).toNat = _
    rw [signOf_div]
    exact toNat_packComponents _ 0#11 0#52
  · rw [dif_pos (Nat.pos_of_ne_zero zero)] at result
    have numerator : m * twoTo (e - f).toNat ≠ 0 := Nat.mul_ne_zero zero (Nat.two_pow_pos _).ne'
    have denominator : n * twoTo (f - e).toNat ≠ 0 :=
      Nat.mul_ne_zero nonzero (Nat.two_pow_pos _).ne'
    rw [nearest_eq_assemble numerator]
    apply same
    rw [result]
    have value := quotient_eq m n e f
    have fine := divCore_fine zero nonzero numerator denominator value
    change (pack Format.binary64 (roundWithAccuracy Format.binary64 (signOf s / signOf t) _ _
      (accuracyOfFraction _ _))).toNat = _
    rw [signOf_div]
    apply toNat_pack_divided (s ^^ t) numerator denominator (Nat.pos_of_ne_zero nonzero)
    · rw [value, Nat.shiftLeft_eq]
      generalize known : min (e - f) _ = unit
      have below : unit ≤ e - f := known ▸ min_le_left _ _
      have power : (2 : ℚ) ^ (e - f) = 2 ^ (e - f - unit).toNat * 2 ^ unit := by
        rw [← zpow_natCast, ← zpow_add₀ two_ne_zero]
        congr 1
        omega
      push_cast
      rw [power]
      ring
    · exact (min_le_right _ _).trans fine

end Formula.Binary
