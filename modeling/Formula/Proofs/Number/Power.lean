import Formula.Proofs.Value.Range

/-!
Powers of integers are sized from their operands. The size test refuses none that has as few bits as
results may have, and lets none be computed that has more than twice as many.
-/

namespace Formula.Number

theorem integerPower_eq (base : Int) (exponent : Nat) :
    integerPower base exponent = base ^ exponent := by
  unfold integerPower
  split
  · rename_i none
    rw [none, pow_zero]
  · rename_i some
    split
    · rename_i zero
      rw [zero, zero_pow some]
    · split
      · rename_i unit
        rcases Int.natAbs_eq_iff.mp unit with rfl | rfl
        · split <;> exact (one_pow exponent).symm
        · split
          · rename_i even
            exact (Even.neg_one_pow (Nat.even_iff.mpr even)).symm
          · rename_i odd
            exact (Odd.neg_one_pow (Nat.odd_iff.mpr (by omega))).symm
      · rfl

theorem bitLength_eq_size (n : Int) : bitLength n = n.natAbs.size := by
  unfold bitLength
  split
  · rename_i zero
    rw [zero, Int.natAbs_zero, Nat.size_zero]
  · rename_i nonzero
    have positive : n.natAbs ≠ 0 := Int.natAbs_ne_zero.mpr nonzero
    apply le_antisymm
    · exact Nat.lt_size.mpr (Nat.log2_self_le positive)
    · exact Nat.size_le.mpr Nat.lt_log2_self

section

variable {base exponent limit : Nat}

theorem two_pow_size_le {n : Nat} (positive : n ≠ 0) : 2 ^ (n.size - 1) ≤ n := by
  have some : 0 < n.size := Nat.size_pos.mpr (Nat.pos_of_ne_zero positive)
  exact Nat.lt_size.mp (by omega)

/-- A power has at least as many bits beyond the first as its factors have together. -/
theorem lt_size_pow (positive : base ≠ 0) (large : limit < (base.size - 1) * exponent) :
    limit < (base ^ exponent).size := by
  rw [Nat.lt_size]
  calc 2 ^ limit
    _ ≤ 2 ^ ((base.size - 1) * exponent) := Nat.pow_le_pow_right Nat.two_pos large.le
    _ = (2 ^ (base.size - 1)) ^ exponent := Nat.pow_mul 2 _ _
    _ ≤ base ^ exponent := Nat.pow_le_pow_left (two_pow_size_le positive) exponent

/-- Where the first bits are left out of the count, at most half of the bits are. -/
theorem size_pow_le (limited : (base.size - 1) * exponent ≤ limit) (some : 0 < limit) :
    (base ^ exponent).size ≤ 2 * limit := by
  have few (bits : base ^ exponent ≤ 1) : (base ^ exponent).size ≤ 2 * limit :=
    (Nat.size_le_size bits).trans (by rw [Nat.size_one]; omega)
  rcases Nat.lt_or_ge base 2 with small | large
  · exact few ((Nat.pow_le_pow_left (Nat.le_of_lt_succ small) exponent).trans_eq (one_pow exponent))
  rcases Nat.eq_zero_or_pos exponent with rfl | positive
  · exact few (le_of_eq (Nat.pow_zero base))
  have two : 2 ≤ base.size := Nat.lt_size.mpr large
  rw [Nat.size_le]
  calc base ^ exponent
    _ < (2 ^ base.size) ^ exponent := Nat.pow_lt_pow_left (Nat.lt_size_self base) positive.ne'
    _ = 2 ^ (base.size * exponent) := (Nat.pow_mul 2 _ _).symm
    _ ≤ 2 ^ (2 * ((base.size - 1) * exponent)) := by
      apply Nat.pow_le_pow_right Nat.two_pos
      rw [← Nat.mul_assoc]
      exact Nat.mul_le_mul_right exponent (by omega)
    _ ≤ 2 ^ (2 * limit) := Nat.pow_le_pow_right Nat.two_pos (Nat.mul_le_mul_left 2 limited)

end

variable {base : Int} {exponent : Nat}

theorem powerTooWide_iff : powerTooWide base exponent = true ↔
    base.natAbs ≠ 0 ∧ maxBits < (base.natAbs.size - 1) * exponent := by
  unfold powerTooWide
  simp only [Bool.and_eq_true, decide_eq_true_eq, bitLength_eq_size, Int.natAbs_ne_zero]
  constructor
  · rintro ⟨⟨nonzero, -⟩, wide⟩
    exact ⟨nonzero, wide⟩
  · rintro ⟨nonzero, wide⟩
    refine ⟨⟨nonzero, Nat.pos_of_ne_zero ?_⟩, wide⟩
    rintro rfl
    omega

/-- A power of integers comes out exactly if it has as few bits as results may have, and then it is
exact. Whatever is computed at all has at most twice as many bits. -/
theorem power_sized (base : Int) (exponent : Nat) :
    (∀ r, power (.int base) (.int exponent) = .ok r ↔
      (base ^ exponent).natAbs.size ≤ 10000 ∧ r = .int (base ^ exponent)) ∧
    (powerTooWide base exponent = false →
      integerPower base exponent = base ^ exponent ∧
        (integerPower base exponent).natAbs.size ≤ 20000) := by
  have computed : power (.int base) (.int exponent) =
      if powerTooWide base exponent then .error .integerTooLarge
      else check (.int (integerPower base exponent)) := rfl
  rw [computed, integerPower_eq]
  constructor
  · intro r
    split
    · rename_i wide
      obtain ⟨nonzero, wide⟩ := powerTooWide_iff.mp wide
      have large := lt_size_pow nonzero wide
      rw [← Int.natAbs_pow] at large
      exact iff_of_false (fun returned => nomatch returned)
        fun few => absurd few.1 (not_le.mpr large)
    · rw [check_eq_ok_iff, and_comm, InRange, bitLength_eq_size]
      rfl
  · intro sized
    refine ⟨rfl, ?_⟩
    rw [Bool.eq_false_iff, ne_eq, powerTooWide_iff, not_and, not_lt] at sized
    have limited : (base.natAbs.size - 1) * exponent ≤ maxBits := by
      by_cases zero : base.natAbs = 0
      · rw [zero, Nat.size_zero, Nat.zero_sub, Nat.zero_mul]
        exact Nat.zero_le _
      · exact sized zero
    rw [Int.natAbs_pow]
    exact size_pow_le limited (by decide)

end Formula.Number
