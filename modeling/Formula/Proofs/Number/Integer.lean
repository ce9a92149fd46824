import Formula.Proofs.Number.Denoted
import Formula.Proofs.Number.Rounding

/-!
The float next to an integer is off by one part in `2 ^ 53` at most. It is the integer itself if no
more than 53 bits are left of that without the zeros at its end, and for no other integer.
-/

namespace Formula

namespace Binary

/-- Without the zeros at its end a number has 53 bits at most. -/
def FitsFloat (n : Nat) : Prop := ∃ m k : Nat, n = m * 2 ^ k ∧ m < 2 ^ 53

section

variable {n : Nat}

theorem fitsFloat_of_lt (small : n < 2 ^ 53) : FitsFloat n := ⟨n, 0, (Nat.mul_one n).symm, small⟩

/-- In units of another power of two a significand is still too long, or the number is small. -/
theorem fitsFloat_of_eq {m : Nat} {e : Int} (short : m < 2 ^ 53) (same : (m * 2 ^ e : ℚ) = n) :
    FitsFloat n := by
  rcases le_total 0 e with whole | broken
  · obtain ⟨k, rfl⟩ := Int.eq_ofNat_of_zero_le whole
    exact ⟨m, k, mod_cast same.symm, short⟩
  · apply fitsFloat_of_lt
    have unit : (2 : ℚ) ^ e ≤ 1 := zpow_le_one_of_nonpos₀ one_le_two broken
    have less : (n : ℚ) ≤ m := same ▸ mul_le_of_le_one_right (Nat.cast_nonneg m) unit
    exact (Nat.cast_le.mp less).trans_lt short

theorem significandFor_one_near (positive : n ≠ 0) :
    |(significandFor n 1 * 2 ^ exponentFor n 1 : ℚ) - n| ≤ n / 2 ^ 53 := by
  have half := significandFor_near (n := n) Nat.one_ne_zero
  obtain ⟨-, -, large⟩ := exponentFor_bounds positive Nat.one_ne_zero
  have normal : minExponent < exponentFor n 1 := by
    rw [exponentFor_one positive]
    unfold minExponent
    omega
  have unit := large normal
  rw [Nat.cast_one, div_one] at half unit
  rw [zpow_add₀ two_ne_zero] at unit
  apply half.trans
  norm_num at unit ⊢
  linarith

/-- A number that fits is a whole number of units of the float next to it, and so is that. -/
theorem significandFor_of_fits (positive : n ≠ 0) (fits : FitsFloat n) :
    (significandFor n 1 * 2 ^ exponentFor n 1 : ℚ) = n := by
  obtain ⟨m, k, rfl, short⟩ := fits
  have unit : (0 : ℚ) < 2 ^ exponentFor (m * 2 ^ k) 1 := zpow_pos two_pos _
  have coarse : exponentFor (m * 2 ^ k) 1 ≤ k := by
    have size : (m * 2 ^ k).log2 < 53 + k := by
      rw [Nat.log2_lt positive, Nat.pow_add]
      exact Nat.mul_lt_mul_of_pos_right short (Nat.two_pow_pos k)
    rw [exponentFor_one positive]
    omega
  have half := significandFor_near (n := m * 2 ^ k) Nat.one_ne_zero
  generalize exponentFor (m * 2 ^ k) 1 = e at *
  generalize significandFor (m * 2 ^ k) 1 = s at *
  obtain ⟨more, shift⟩ := Int.eq_ofNat_of_zero_le (sub_nonneg.mpr coarse)
  have whole : ((m * 2 ^ k : Nat) : ℚ) = (m * 2 ^ more : Nat) * 2 ^ e := by
    push_cast
    rw [← zpow_natCast, ← zpow_natCast, mul_assoc, ← zpow_add₀ two_ne_zero,
      show (more : ℤ) + e = k by omega]
  rw [Nat.cast_one, div_one, whole, ← sub_mul, abs_mul, abs_of_pos unit] at half
  have less : |(s : ℚ) - (m * 2 ^ more : Nat)| ≤ 1 / 2 := by
    apply le_of_mul_le_mul_right _ unit
    linarith
  have same : (s : ℤ) - (m * 2 ^ more : Nat) = 0 := by
    rw [← Int.abs_lt_one_iff]
    have : |(((s : ℤ) - (m * 2 ^ more : Nat) : ℤ) : ℚ)| < 1 := by
      push_cast at less ⊢
      linarith
    exact_mod_cast this
  rw [whole, Int.ofNat_inj.mp (sub_eq_zero.mp same)]

/-- A float next to a natural number stands for one next to it, and for the number itself if that
fits. -/
theorem ofFloat_nearest_one (negative : Bool) (finite : (nearest negative n 1).isFinite = true) :
    ∃ m e, ofFloat (nearest negative n 1) = .finite negative m e ∧
      |(m * 2 ^ e : ℚ) - n| ≤ n / 2 ^ 53 ∧ ((m * 2 ^ e : ℚ) = n ↔ FitsFloat n) := by
  by_cases zero : n = 0
  · subst zero
    refine ⟨0, minExponent, ?_, by norm_num, ?_⟩
    · cases negative <;> decide +kernel
    · exact iff_of_true (by norm_num) (fitsFloat_of_lt (by decide))
  · rw [nearest_eq_assemble zero, isFinite_assemble _ (min_le_right _ _), min_lt_iff,
      or_iff_left (lt_irrefl _)] at finite
    obtain ⟨m, e, bits, value⟩ := ofFloat_nearest negative zero Nat.one_ne_zero finite
    have short := (assemble_of_ofFloat bits).1.short
    refine ⟨m, e, bits, ?_, fitsFloat_of_eq short, fun fits => ?_⟩
    · rw [value]
      exact significandFor_one_near zero
    · rw [value]
      exact significandFor_of_fits zero fits

end

variable {v : Int}

theorem standsFor_int (v : Int) : (Number.int v).StandsFor v := by
  have value : (signed (v < 0) v.natAbs * 2 ^ (0 : ℤ) : ℚ) = v := by
    rw [signed_natAbs, zpow_zero, mul_one]
  rw [← value]
  rfl

theorem standsFor_float {x : Float} {negative : Bool} {m : Nat} {e : Int}
    (bits : ofFloat x = .finite negative m e) :
    (Number.float x).StandsFor (signed negative m * 2 ^ e) := by
  rw [Number.StandsFor, Number.value?, Number.exact, bits]
  rfl

/-- An integer that is not beyond the floats has a float next to it. -/
theorem nearest_returns (within : ¬ BeyondFloats v) :
    ∃ x q, nearest (v < 0) v.natAbs 1 = x ∧ x.isFinite = true ∧ (Number.float x).StandsFor q ∧
      |q - v| ≤ |(v : ℚ)| / 2 ^ 53 ∧ (q = v ↔ FitsFloat v.natAbs) := by
  have finite : (nearest (v < 0) v.natAbs 1).isFinite = true :=
    (isFinite_nearest_one _ _).mpr within
  obtain ⟨m, e, bits, near, same⟩ := ofFloat_nearest_one (v < 0) finite
  refine ⟨_, _, rfl, finite, standsFor_float bits, ?_⟩
  have whole : (v : ℚ) = (if v < 0 then -1 else 1) * v.natAbs := by
    have := cast_signed (v < 0) v.natAbs
    rw [signed_natAbs] at this
    simpa using this
  have unit : |(if v < 0 then -1 else 1 : ℚ)| = 1 := by split <;> norm_num
  have sign : (if v < 0 then -1 else 1 : ℚ) ≠ 0 := by split <;> norm_num
  rw [cast_signed, mul_assoc]
  simp only [decide_eq_true_eq]
  constructor
  · rw [whole, ← mul_sub, abs_mul, abs_mul, unit, one_mul, one_mul, Nat.abs_cast]
    exact near
  · rw [whole, mul_right_inj' sign]
    exact same

end Binary

theorem Number.isZero_int_iff {v : Int} : (Number.int v).isZero = true ↔ v = 0 :=
  ((Binary.standsFor_int v).equals_iff (Binary.standsFor_int 0)).trans Int.cast_inj

namespace Decimal

/-- Every digit but the first one is worth three bits. -/
theorem two_pow_le_of_digits {n k : Nat} (positive : n ≠ 0) (many : k ≤ 3 * (digitCount n - 1)) :
    2 ^ k ≤ n :=
  calc 2 ^ k
    _ ≤ 2 ^ (3 * (digitCount n - 1)) := Nat.pow_le_pow_right Nat.two_pos many
    _ = 8 ^ (digitCount n - 1) := Nat.pow_mul 2 3 _
    _ ≤ 10 ^ (digitCount n - 1) := Nat.pow_le_pow_left (by decide) _
    _ ≤ n := pow_digitCount_le positive

theorem toFloat_ofInt (v : Int) : (ofInt v).toFloat = Binary.nearest (v < 0) v.natAbs 1 := by
  unfold toFloat ofInt leadingExponent
  dsimp only
  by_cases zero : v.natAbs = 0
  · rw [if_pos (.inl zero), zero, Binary.nearest, if_pos rfl]
  · have some := digitCount_pos v.natAbs
    rw [if_neg (by omega)]
    split
    · rename_i large
      have far := @two_pow_le_of_digits v.natAbs 1024 zero (by omega)
      rw [Binary.nearest_one zero,
        min_eq_right ((Binary.infinityBits_le_iff zero).mpr (far.trans (Nat.le_add_right _ _)))]
    · rw [if_neg (by decide), Int.toNat_zero]
      exact congrArg (Binary.nearest _ · 1) (Nat.mul_one _)

end Decimal

end Formula
