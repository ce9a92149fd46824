import Formula.Proofs.Number.Division
import Formula.Proofs.Number.Order

/-!
How far rounding goes. The float next to a quotient is off by one part in `2 ^ 53` at most, and
there is no whole number between the two. The same is true of a quotient of floats, and the whole
part of a float is the one of the rational number that it stands for.
-/

namespace Formula.Binary

open Float.Model (Format)
open Float.Model.UnpackedFloat

/-! ### What a float that was put together stands for -/

theorem toBits_ofBits {bits : UInt64} (finite : bits.toNat / 2 ^ 52 % 2048 ≠ 2047) :
    (Float.ofBits bits).toBits = bits := by
  have written := @pack_unpack Format.binary64 bits.toBitVec (by decide)
  have field := mt (unpackExponent_eq_iff bits.toBitVec (-1#11)).mp finite
  have same : (Float.ofBits bits).toBits =
    UInt64.ofBitVec (pack Format.binary64 (unpack Format.binary64 bits.toBitVec)) := rfl
  rw [same, written, if_neg]
  intro nan
  exact field (of_decide_eq_true nan).1

theorem wordOf_parts {magnitude : Nat} (negative : Bool) (small : magnitude < 2 ^ 63) :
    decide (signBit ≤ wordOf negative magnitude) = negative ∧
      wordOf negative magnitude / 2 ^ 52 % 2048 = magnitude / 2 ^ 52 ∧
      wordOf negative magnitude % 2 ^ 52 = magnitude % 2 ^ 52 ∧
      wordOf negative magnitude < 2 ^ 64 := by
  unfold wordOf
  rw [signBit_eq]
  cases negative with
  | false =>
      rw [if_neg Bool.false_ne_true, decide_eq_false (by omega)]
      refine ⟨rfl, ?_, ?_, ?_⟩ <;> omega
  | true =>
      rw [if_pos rfl, decide_eq_true (by omega)]
      refine ⟨rfl, ?_, ?_, ?_⟩ <;> omega

theorem ofFloat_assemble {m : Nat} {e : Int} (negative : Bool) (short : m < 2 ^ 53)
    (least : minExponent ≤ e) (normal : m < 2 ^ 52 → e = minExponent)
    (finite : magnitudeOf m e < infinityBits) :
    ofFloat (assemble negative (magnitudeOf m e)) = .finite negative m e := by
  rw [magnitudeOf, hiddenBit_eq, infinityBits_eq] at finite
  obtain ⟨sign, field, fraction, word⟩ := wordOf_parts negative
    (show (e - minExponent).toNat * 2 ^ 52 + m < 2 ^ 63 by omega)
  have number : (UInt64.ofNat (wordOf negative (magnitudeOf m e))).toNat =
      wordOf negative ((e - minExponent).toNat * 2 ^ 52 + m) := by
    rw [UInt64.toNat_ofNat', magnitudeOf, hiddenBit_eq]
    exact Nat.mod_eq_of_lt word
  have bits : (assemble negative (magnitudeOf m e)).toBits.toNat =
      wordOf negative ((e - minExponent).toNat * 2 ^ 52 + m) := by
    rw [← number]
    refine congrArg UInt64.toNat (toBits_ofBits ?_)
    change (UInt64.ofNat (wordOf negative (magnitudeOf m e))).toNat / _ % _ ≠ _
    rw [number, field]
    omega
  unfold ofFloat ofBits
  dsimp only
  rw [bits, hiddenBit_eq, sign, field, fraction, if_neg (by omega)]
  by_cases small : m < 2 ^ 52
  · rw [if_pos (by rw [normal small]; omega), normal small]
    refine congrArg (Binary.finite negative · _) ?_
    omega
  · rw [if_neg (by omega)]
    have significand : 2 ^ 52 + ((e - minExponent).toNat * 2 ^ 52 + m) % 2 ^ 52 = m := by omega
    have exponent : minExponent +
        (((e - minExponent).toNat * 2 ^ 52 + m) / 2 ^ 52 : Nat) - 1 = e := by omega
    rw [significand, exponent]

/-! ### The distance to the next float -/

/-- A rational next to another one: off by one part in `2 ^ 53` at most, and on the same side of
every whole number. -/
structure Rounds (q v : ℚ) : Prop where
  near : |v - q| ≤ |q| / 2 ^ 53
  above : ∀ k : ℤ, (k : ℚ) ≤ q → (k : ℚ) ≤ v
  below : ∀ k : ℤ, q ≤ k → v ≤ k

theorem rounds_zero : Rounds 0 0 := ⟨by simp, fun _ le => le, fun _ le => le⟩

theorem Rounds.neg {q v : ℚ} (rounds : Rounds q v) : Rounds (-q) (-v) := by
  refine ⟨?_, fun k le => ?_, fun k le => ?_⟩
  · rw [abs_neg, ← abs_neg, neg_sub_neg, neg_sub]
    exact rounds.near
  · have := rounds.below (-k) (by push_cast; linarith)
    push_cast at this
    linarith
  · have := rounds.above (-k) (by push_cast; linarith)
    push_cast at this
    linarith

theorem Rounds.signed {n m : Nat} {d w : ℚ} (rounds : Rounds (n / d) (m * w)) (negative : Bool) :
    Rounds (signed negative n / d) (signed negative m * w) := by
  cases negative with
  | false => exact mod_cast rounds
  | true =>
      have opposite := rounds.neg
      rw [← neg_div, ← neg_mul] at opposite
      exact mod_cast opposite

section

variable {n d : Nat}

theorem significandFor_near (denominator : d ≠ 0) :
    |significandFor n d * 2 ^ exponentFor n d - (n / d : ℚ)| ≤ 2 ^ exponentFor n d / 2 := by
  have positive := Nat.pos_of_ne_zero denominator
  have unit : (0 : ℚ) < 2 ^ exponentFor n d := zpow_pos two_pos _
  have units := inUnits_snd_pos (n := n) positive (exponentFor n d)
  have units' : (0 : ℚ) < (inUnits n d (exponentFor n d)).2 := Nat.cast_pos.mpr units
  obtain ⟨least, greatest, -⟩ := roundQuotient_near (a := (inUnits n d (exponentFor n d)).1) units
  have value := inUnits_eq (n := n) positive (exponentFor n d)
  change 2 * significandFor n d * _ ≤ _ at least
  change _ ≤ 2 * significandFor n d * _ + _ at greatest
  rw [← @Nat.cast_le ℚ] at least greatest
  push_cast [value] at least greatest
  generalize ((inUnits n d (exponentFor n d)).2 : ℚ) = b at *
  have low : 2 * (significandFor n d : ℚ) ≤ 2 * (n / d / 2 ^ exponentFor n d) + 1 := by
    apply le_of_mul_le_mul_right _ units'
    linarith
  have high : 2 * (n / d / 2 ^ exponentFor n d : ℚ) ≤ 2 * significandFor n d + 1 := by
    apply le_of_mul_le_mul_right _ units'
    linarith
  have half : |significandFor n d - (n / d / 2 ^ exponentFor n d : ℚ)| ≤ 1 / 2 :=
    abs_le.mpr ⟨by linarith, by linarith⟩
  have apart : significandFor n d * 2 ^ exponentFor n d - (n / d : ℚ) =
      (significandFor n d - n / d / 2 ^ exponentFor n d) * 2 ^ exponentFor n d := by
    rw [sub_mul, div_mul_cancel₀ _ unit.ne']
  calc |significandFor n d * 2 ^ exponentFor n d - (n / d : ℚ)|
    _ = |significandFor n d - (n / d / 2 ^ exponentFor n d : ℚ)| * 2 ^ exponentFor n d := by
      rw [apart, abs_mul, abs_of_pos unit]
    _ ≤ 1 / 2 * 2 ^ exponentFor n d := mul_le_mul_of_nonneg_right half unit.le
    _ = 2 ^ exponentFor n d / 2 := by ring

theorem inUnits_le_iff (positive : 0 < d) (unit : Int) (k : Nat) :
    (inUnits n d unit).1 ≤ k * (inUnits n d unit).2 ↔ (n / d : ℚ) ≤ k * 2 ^ unit := by
  have units : (0 : ℚ) < (inUnits n d unit).2 := Nat.cast_pos.mpr (inUnits_snd_pos positive unit)
  have power : (0 : ℚ) < 2 ^ unit := zpow_pos two_pos _
  rw [← @Nat.cast_le ℚ, Nat.cast_mul, inUnits_eq positive, mul_le_mul_iff_left₀ units,
    div_le_iff₀ power]

theorem whole_in_units (k : Nat) {unit : Int} (fine : unit ≤ 0) :
    ((k * 2 ^ (-unit).toNat : Nat) : ℚ) * 2 ^ unit = k := by
  have inverse : (2 : ℚ) ^ (-unit).toNat * 2 ^ unit = 1 := by
    rw [← zpow_natCast, ← zpow_add₀ two_ne_zero, Int.toNat_of_nonneg (by omega), neg_add_cancel,
      zpow_zero]
  push_cast
  rw [mul_assoc, inverse, mul_one]

theorem whole_le_significandFor {k : Nat} (denominator : d ≠ 0) (fine : exponentFor n d ≤ 0)
    (le : (k : ℚ) ≤ n / d) : (k : ℚ) ≤ significandFor n d * 2 ^ exponentFor n d := by
  have positive := Nat.pos_of_ne_zero denominator
  have units := inUnits_snd_pos (n := n) positive (exponentFor n d)
  have whole := whole_in_units k fine
  have rounded : k * 2 ^ (-exponentFor n d).toNat ≤ significandFor n d := by
    apply le_trans _ (le_roundQuotient _ _)
    rw [Nat.le_div_iff_mul_le units, ← not_lt, inUnits_lt_iff positive, not_lt, whole]
    exact le
  rw [← whole]
  exact mul_le_mul_of_nonneg_right (Nat.cast_le.mpr rounded) (zpow_pos two_pos _).le

theorem significandFor_le_whole {k : Nat} (denominator : d ≠ 0) (fine : exponentFor n d ≤ 0)
    (le : (n / d : ℚ) ≤ k) : significandFor n d * 2 ^ exponentFor n d ≤ (k : ℚ) := by
  have positive := Nat.pos_of_ne_zero denominator
  have units := inUnits_snd_pos (n := n) positive (exponentFor n d)
  have whole := whole_in_units k fine
  have rounded : significandFor n d ≤ k * 2 ^ (-exponentFor n d).toNat := by
    apply roundQuotient_le_of_le units
    rw [inUnits_le_iff positive, whole]
    exact le
  rw [← whole]
  exact mul_le_mul_of_nonneg_right (Nat.cast_le.mpr rounded) (zpow_pos two_pos _).le

/-- A quotient far above the smallest floats, and below those that are all whole. -/
structure Moderate (n d : Nat) : Prop where
  denominator : d ≠ 0
  large : n ≠ 0 → (2 : ℚ) ^ (-100 : Int) ≤ n / d
  small : (n / d : ℚ) < 2 ^ 53

theorem Moderate.exponent_bounds (moderate : Moderate n d) (numerator : n ≠ 0) :
    minExponent < exponentFor n d ∧ exponentFor n d ≤ 0 := by
  obtain ⟨denominator, large, small⟩ := moderate
  obtain ⟨-, below, above⟩ := exponentFor_bounds numerator denominator
  have grows {k l : Int} (less : (2 : ℚ) ^ k < 2 ^ l) : k < l :=
    (zpow_lt_zpow_iff_right₀ one_lt_two).mp less
  have normal : minExponent < exponentFor n d := by
    have := grows ((large numerator).trans_lt below)
    unfold minExponent
    omega
  have := grows ((above normal).trans_lt (small.trans_eq (zpow_natCast 2 53).symm))
  exact ⟨normal, by omega⟩

theorem significandFor_rounds (moderate : Moderate n d) (numerator : n ≠ 0) :
    Rounds (n / d) (significandFor n d * 2 ^ exponentFor n d) := by
  obtain ⟨normal, fine⟩ := moderate.exponent_bounds numerator
  have denominator := moderate.denominator
  obtain ⟨-, -, above⟩ := exponentFor_bounds numerator denominator
  have quotient : (0 : ℚ) ≤ n / d := div_nonneg (Nat.cast_nonneg _) (Nat.cast_nonneg _)
  have significand : (0 : ℚ) ≤ significandFor n d * 2 ^ exponentFor n d :=
    mul_nonneg (Nat.cast_nonneg _) (zpow_pos two_pos _).le
  refine ⟨?_, fun k le => ?_, fun k le => ?_⟩
  · have half := significandFor_near (n := n) denominator
    have unit := above normal
    rw [zpow_add₀ two_ne_zero] at unit
    rw [abs_of_nonneg quotient]
    norm_num at unit ⊢
    linarith
  · rcases Int.le_total k 0 with negative | positive
    · exact (Int.cast_nonpos.mpr negative).trans significand
    · obtain ⟨k, rfl⟩ := Int.eq_ofNat_of_zero_le positive
      exact whole_le_significandFor denominator fine le
  · obtain ⟨k, rfl⟩ := Int.eq_ofNat_of_zero_le (Int.cast_nonneg_iff.mp (quotient.trans le))
    exact significandFor_le_whole denominator fine le

/-- The float next to a quotient stands for the rounded significand, unless it is infinite. -/
theorem ofFloat_nearest (negative : Bool) (numerator : n ≠ 0) (denominator : d ≠ 0)
    (finite : magnitudeOf (significandFor n d) (exponentFor n d) < infinityBits) : ∃ m e,
    ofFloat (nearest negative n d) = .finite negative m e ∧
      (m * 2 ^ e : ℚ) = significandFor n d * 2 ^ exponentFor n d := by
  obtain ⟨least, -, -⟩ := exponentFor_bounds numerator denominator
  obtain ⟨short, long⟩ := significandFor_bounds numerator denominator
  rw [nearest_eq_assemble numerator, min_eq_left finite.le]
  by_cases none : significandFor n d = 0
  · have smallest : exponentFor n d = minExponent := by omega
    rw [none, smallest]
    exact ⟨0, minExponent, ofFloat_assemble negative (by decide) (le_refl _) (fun _ => rfl)
      (by decide), rfl⟩
  · obtain ⟨m, e, -, -, shorter, least', normal, magnitude, value⟩ :=
      shiftToTargetExponent_rounded none least short long
    refine ⟨m, e, ?_, value⟩
    rw [← magnitude]
    exact ofFloat_assemble negative shorter least' normal (magnitude.trans_lt finite)

/-- The float next to a quotient stands for a number next to it. -/
theorem nearest_rounds (negative : Bool) (moderate : Moderate n d) : ∃ m e,
    ofFloat (nearest negative n d) = .finite negative m e ∧
      Rounds (signed negative n / d) (signed negative m * 2 ^ e) := by
  by_cases zero : n = 0
  · subst zero
    refine ⟨0, minExponent, ?_, ?_⟩
    · have none : magnitudeOf 0 minExponent = 0 := rfl
      rw [nearest, if_pos rfl, ← none]
      exact ofFloat_assemble negative (by decide) (le_refl _) (fun _ => rfl) (by decide)
    · apply Rounds.signed
      rw [Nat.cast_zero, zero_div, zero_mul]
      exact rounds_zero
  · obtain ⟨-, fine⟩ := moderate.exponent_bounds zero
    obtain ⟨short, -⟩ := significandFor_bounds zero moderate.denominator
    have finite : magnitudeOf (significandFor n d) (exponentFor n d) < infinityBits := by
      rw [magnitudeOf, hiddenBit_eq, infinityBits_eq]
      unfold minExponent
      omega
    obtain ⟨m, e, bits, value⟩ := ofFloat_nearest negative zero moderate.denominator finite
    refine ⟨m, e, bits, ?_⟩
    apply Rounds.signed
    rw [value]
    exact significandFor_rounds moderate zero

end

/-- A quotient of floats stands for a number next to the quotient of what they stand for. -/
theorem div_rounds {x y : Float} {negative : Bool} {m n : Nat} {e f : Int}
    (dividend : ofFloat x = .finite negative m e) (divisor : ofFloat y = .finite false n f)
    (nonzero : n ≠ 0) (large : m ≠ 0 → (2 : ℚ) ^ (-100 : Int) ≤ m * 2 ^ e / (n * 2 ^ f))
    (small : (m * 2 ^ e / (n * 2 ^ f) : ℚ) < 2 ^ 53) : ∃ m' e',
    ofFloat (x / y) = .finite negative m' e' ∧
      Rounds (signed negative m * 2 ^ e / (n * 2 ^ f)) (signed negative m' * 2 ^ e') := by
  have quotient := quotient_eq m n e f
  have same : (m / n * 2 ^ (e - f) : ℚ) = m * 2 ^ e / (n * 2 ^ f) := by
    rw [zpow_sub₀ two_ne_zero]
    ring
  have moderate : Moderate (m * twoTo (e - f).toNat) (n * twoTo (f - e).toNat) := by
    refine ⟨Nat.mul_ne_zero nonzero (Nat.two_pow_pos _).ne', fun some => ?_, ?_⟩
    · rw [quotient, same]
      exact large fun none => some (by rw [none, Nat.zero_mul])
    · rwa [quotient, same]
  obtain ⟨m', e', finite, rounds⟩ := nearest_rounds negative moderate
  have value : (signed negative (m * twoTo (e - f).toNat) / (n * twoTo (f - e).toNat : Nat) : ℚ) =
      signed negative m * 2 ^ e / (n * 2 ^ f) := by
    rw [cast_signed, cast_signed, mul_div_assoc, quotient.trans same]
    ring
  refine ⟨m', e', ?_, value ▸ rounds⟩
  rw [div_eq_nearest dividend divisor nonzero, Bool.xor_false]
  exact finite

theorem floor_eq (negative : Bool) (m : Nat) (e : Int) :
    floor negative m e = ⌊(signed negative m * 2 ^ e : ℚ)⌋ := by
  unfold floor
  split
  · rename_i small
    have quotient : (signed negative m * 2 ^ e : ℚ) =
        (signed negative m : ℚ) / (twoTo (-e).toNat : Nat) := by
      rw [cast_twoTo_toNat (by omega), zpow_neg, div_inv_eq_mul]
    rw [quotient, Rat.floor_intCast_div_natCast, Int.fdiv_eq_ediv_of_nonneg _ (Int.natCast_nonneg _)]
  · rename_i large
    rw [signed_mul, ← cast_twoTo_toNat (show 0 ≤ e by omega)]
    have whole := Int.floor_intCast (R := ℚ) (signed negative m * (twoTo e.toNat : Nat))
    push_cast at whole
    exact whole.symm

end Formula.Binary
