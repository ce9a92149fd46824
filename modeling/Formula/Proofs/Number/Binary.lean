import Formula.Number.Basic
import Mathlib

/-!
Which integers have no float next to them: those that are rounded beyond the greatest finite float.
-/

namespace Formula.Binary

open Float.Model (Format UnpackedFloat)
open Float.Model.UnpackedFloat

/-! ### The bits of finite floats -/

/-- The exponent in the bits of a float. -/
def exponentField (bits : BitVec 64) : BitVec 11 :=
  @unpackExponent Format.binary64 bits

theorem exponentField_toNat (bits : BitVec 64) :
    (exponentField bits).toNat = bits.toNat / 2 ^ 52 % 2 ^ 11 := by
  simp [exponentField, unpackExponent, Nat.shiftRight_eq_div_pow]

theorem isFinite_unpack (bits : BitVec 64) :
    (unpack Format.binary64 bits).isFinite = true ↔ exponentField bits ≠ -1#11 := by
  unfold unpack
  dsimp only
  split
  · rename_i ones
    split
    · exact iff_of_false Bool.false_ne_true fun other => other ones
    · exact iff_of_false Bool.false_ne_true fun other => other ones
  · rename_i other
    split
    · split <;> exact iff_of_true rfl other
    · exact iff_of_true rfl other

/-- Writing a float that was read from bits keeps it finite, or not finite. -/
theorem exponentField_pack_unpack (bits : BitVec 64) :
    exponentField (pack Format.binary64 (unpack Format.binary64 bits)) = -1#11 ↔
      exponentField bits = -1#11 := by
  have written := @pack_unpack Format.binary64 bits (by decide)
  rw [written]
  split
  · rename_i nan
    have ones : exponentField bits = -1#11 := (of_decide_eq_true nan).1
    exact iff_of_true unpackExponent_packComponents ones
  · exact Iff.rfl

theorem isFinite_ofBits (bits : UInt64) :
    (Float.ofBits bits).isFinite = true ↔ bits.toNat / 2 ^ 52 % 2 ^ 11 ≠ 2047 := by
  have same : (Float.ofBits bits).isFinite = (unpack Format.binary64
      (pack Format.binary64 (unpack Format.binary64 bits.toBitVec))).isFinite := rfl
  rw [same, isFinite_unpack, ne_eq, exponentField_pack_unpack, ← BitVec.toNat_inj,
    exponentField_toNat]
  rfl

theorem hiddenBit_eq : hiddenBit = 2 ^ 52 := rfl

theorem infinityBits_eq : infinityBits = 2047 * 2 ^ 52 := rfl

theorem signBit_eq : signBit = 2 ^ 63 := rfl

/-- Up to the bits of infinity a float is finite as long as its bits stay below. -/
theorem isFinite_assemble (negative : Bool) {magnitude : Nat} (bound : magnitude ≤ infinityBits) :
    (assemble negative magnitude).isFinite = true ↔ magnitude < infinityBits := by
  rw [infinityBits_eq] at bound ⊢
  rw [assemble, isFinite_ofBits, signBit_eq]
  cases negative with
  | false =>
      have word : magnitude % 2 ^ 64 = magnitude := Nat.mod_eq_of_lt (by omega)
      rw [if_neg Bool.false_ne_true, UInt64.toNat_ofNat', word]
      omega
  | true =>
      have word : (2 ^ 63 + magnitude) % 2 ^ 64 = 2 ^ 63 + magnitude :=
        Nat.mod_eq_of_lt (by omega)
      rw [if_pos rfl, UInt64.toNat_ofNat', word]
      omega

/-! ### Rounding -/

theorem le_roundQuotient (numerator denominator : Nat) :
    numerator / denominator ≤ roundQuotient numerator denominator := by
  unfold roundQuotient
  dsimp only
  split <;> omega

theorem roundQuotient_le (numerator denominator : Nat) :
    roundQuotient numerator denominator ≤ numerator / denominator + 1 := by
  unfold roundQuotient
  dsimp only
  split <;> omega

/-- A quotient is rounded to an even number or further from half a unit below it on. -/
theorem le_roundQuotient_iff {half bound numerator : Nat} (positive : 0 < half) :
    2 * bound ≤ roundQuotient numerator (2 * half) ↔ 2 * half * (2 * bound) ≤ numerator + half := by
  have split := Nat.div_add_mod numerator (2 * half)
  have small := Nat.mod_lt numerator (show 0 < 2 * half by omega)
  unfold roundQuotient
  dsimp only
  generalize numerator / (2 * half) = quotient at split ⊢
  generalize numerator % (2 * half) = remainder at split small ⊢
  rcases Nat.lt_trichotomy (quotient + 1) (2 * bound) with below | near | above
  · have gap : 2 * half * (quotient + 2) ≤ 2 * half * (2 * bound) :=
      Nat.mul_le_mul_left _ below
    rw [Nat.mul_add] at gap
    constructor
    · intro reached
      split at reached <;> omega
    · intro reached
      omega
  · have exact_ : 2 * half * (2 * bound) = 2 * half * quotient + 2 * half := by
      rw [← near, Nat.mul_add, Nat.mul_one]
    constructor
    · intro reached
      split at reached <;> omega
    · intro reached
      rw [if_pos (by omega)]
      omega
  · have enough : 2 * half * (2 * bound) ≤ 2 * half * quotient :=
      Nat.mul_le_mul_left _ (by omega)
    constructor
    · intro reached
      omega
    · intro reached
      split <;> omega

/-! ### The float next to an integer -/

section

variable {n : Nat}

/-- In units of its own size an integer has 53 bits. -/
theorem inUnits_bounds (positive : n ≠ 0) :
    let scaled := inUnits n 1 ((n.log2 : Int) - 52)
    0 < scaled.2 ∧ 2 ^ 52 * scaled.2 ≤ scaled.1 ∧ scaled.1 < 2 ^ 53 * scaled.2 := by
  have above := Nat.log2_self_le positive
  have below := @Nat.lt_log2_self n
  unfold inUnits
  split
  · rename_i small
    have shift : (-((n.log2 : Int) - 52)).toNat = 52 - n.log2 := by omega
    have whole : 2 ^ n.log2 * 2 ^ (52 - n.log2) = 2 ^ 52 := by
      rw [← Nat.pow_add]
      congr 1
      omega
    simp only [shift, twoTo]
    refine ⟨Nat.one_pos, ?_, ?_⟩
    · rw [Nat.mul_one, ← whole]
      exact Nat.mul_le_mul_right _ above
    · rw [Nat.mul_one, Nat.pow_succ 2 52, ← whole, Nat.mul_right_comm, ← Nat.pow_succ]
      exact Nat.mul_lt_mul_of_pos_right below (Nat.two_pow_pos _)
  · rename_i large
    have shift : ((n.log2 : Int) - 52).toNat = n.log2 - 52 := by omega
    simp only [shift, twoTo, Nat.one_mul, Nat.pow_eq]
    refine ⟨Nat.two_pow_pos _, ?_, ?_⟩
    · rw [← Nat.pow_add, show 52 + (n.log2 - 52) = n.log2 by omega]
      exact above
    · rw [← Nat.pow_add, show 53 + (n.log2 - 52) = n.log2 + 1 by omega]
      exact below

theorem exponentFor_one (positive : n ≠ 0) : exponentFor n 1 = (n.log2 : Int) - 52 := by
  obtain ⟨-, above, -⟩ := inUnits_bounds positive
  have one : ((1 : Nat).log2 : Int) = 0 := rfl
  unfold exponentFor minExponent
  dsimp only
  rw [one, Int.sub_zero, hiddenBit_eq, if_neg (Nat.not_lt.mpr above)]
  omega

/-- The significand of the float next to an integer. -/
def significandOf (n : Nat) : Nat :=
  let scaled := inUnits n 1 ((n.log2 : Int) - 52)
  roundQuotient scaled.1 scaled.2

theorem significandOf_bounds (positive : n ≠ 0) :
    2 ^ 52 ≤ significandOf n ∧ significandOf n ≤ 2 ^ 53 := by
  obtain ⟨units, above, below⟩ := inUnits_bounds positive
  have least := le_roundQuotient (inUnits n 1 ((n.log2 : Int) - 52)).1
    (inUnits n 1 ((n.log2 : Int) - 52)).2
  have greatest := roundQuotient_le (inUnits n 1 ((n.log2 : Int) - 52)).1
    (inUnits n 1 ((n.log2 : Int) - 52)).2
  have quotientAbove := (Nat.le_div_iff_mul_le units).mpr above
  have quotientBelow := (Nat.div_lt_iff_lt_mul units).mpr below
  unfold significandOf
  dsimp only
  omega

theorem nearest_one (positive : n ≠ 0) (negative : Bool) :
    nearest negative n 1 =
      assemble negative (min ((n.log2 + 1022) * 2 ^ 52 + significandOf n) infinityBits) := by
  have shift : ((n.log2 : Int) - 52 - minExponent).toNat = n.log2 + 1022 := by
    unfold minExponent
    omega
  unfold nearest
  dsimp only
  rw [if_neg positive, exponentFor_one positive, shift, hiddenBit_eq]
  rfl

/-- Integers from half a unit below the next power of two on are rounded to it. -/
theorem significandOf_end {shift : Nat} (size : n.log2 = shift + 53) :
    2 ^ 53 ≤ significandOf n ↔ 2 ^ (shift + 54) ≤ n + 2 ^ shift := by
  have exponent : (n.log2 : Int) - 52 = ((shift + 1 : Nat) : Int) := by omega
  have units : inUnits n 1 ((n.log2 : Int) - 52) = (n, 2 * 2 ^ shift) := by
    rw [exponent, inUnits, if_neg (by omega), Int.toNat_natCast, twoTo, Nat.one_mul,
      Nat.pow_eq, Nat.pow_succ']
  have rounded := @le_roundQuotient_iff (2 ^ shift) (2 ^ 52) n (Nat.two_pow_pos _)
  have whole : 2 * 2 ^ shift * (2 * 2 ^ 52) = 2 ^ (shift + 54) := by
    rw [Nat.pow_add]
    omega
  rw [whole] at rounded
  rw [significandOf, units]
  exact rounded

/-- The bits of the float next to an integer reach those of infinity exactly from the middle between
the greatest float and the next power of two on. -/
theorem infinityBits_le_iff (positive : n ≠ 0) :
    infinityBits ≤ (n.log2 + 1022) * 2 ^ 52 + significandOf n ↔ 2 ^ 1024 ≤ n + 2 ^ 970 := by
  obtain ⟨least, greatest⟩ := significandOf_bounds positive
  have above := Nat.log2_self_le positive
  have below := @Nat.lt_log2_self n
  rw [infinityBits_eq, show 1024 = 970 + 54 from rfl]
  -- the powers stay symbols
  generalize known : 970 = shift
  rcases Nat.lt_trichotomy n.log2 (shift + 53) with smaller | size | larger
  · have small : 2 ^ (n.log2 + 1) ≤ 2 ^ (shift + 53) :=
      Nat.pow_le_pow_right Nat.two_pos smaller
    have unit : 2 ^ shift ≤ 2 ^ (shift + 53) := Nat.pow_le_pow_right Nat.two_pos (by omega)
    have double : 2 ^ (shift + 54) = 2 ^ (shift + 53) * 2 := Nat.pow_succ 2 (shift + 53)
    refine iff_of_false ?_ ?_
    · omega
    · omega
  · rw [← significandOf_end size]
    omega
  · have large : 2 ^ (shift + 54) ≤ 2 ^ n.log2 := Nat.pow_le_pow_right Nat.two_pos larger
    refine iff_of_true ?_ ?_
    · omega
    · exact Nat.le_trans (Nat.le_trans large above) (Nat.le_add_right n _)

end

theorem isFinite_nearest_one (n : Nat) (negative : Bool) :
    (nearest negative n 1).isFinite = true ↔ ¬ 2 ^ 1024 ≤ n + 2 ^ 970 := by
  by_cases zero : n = 0
  · have start : nearest negative 0 1 = assemble negative 0 := rfl
    rw [zero, start, isFinite_assemble negative (Nat.zero_le _), show 1024 = 970 + 54 from rfl]
    generalize 970 = shift
    have unit : 2 ^ shift < 2 ^ (shift + 54) := Nat.pow_lt_pow_right Nat.one_lt_two (by omega)
    exact iff_of_true (by decide) (by omega)
  · rw [nearest_one zero, isFinite_assemble negative (Nat.min_le_right _ _),
      ← infinityBits_le_iff zero]
    omega

/-- An integer is as far out as the middle between the greatest float and the next power of two, or
further. -/
def BeyondFloats (n : Int) : Prop := 2 ^ 1024 ≤ n.natAbs + 2 ^ 970

/-- Exactly the integers beyond the floats have no float next to them. -/
theorem ofInt?_eq_none_iff {n : Int} : ofInt? n = none ↔ BeyondFloats n := by
  have finite := isFinite_nearest_one n.natAbs (n < 0)
  unfold ofInt?
  dsimp only
  split
  · rename_i isFinite
    exact iff_of_false (fun none => nomatch none) (finite.mp isFinite)
  · rename_i infinite
    exact iff_of_true rfl (Classical.not_not.mp fun small => infinite (finite.mpr small))

theorem not_beyondFloats_zero : ¬ BeyondFloats 0 := by
  rw [← ofInt?_eq_none_iff]
  decide

end Formula.Binary
