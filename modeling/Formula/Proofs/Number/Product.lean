import Formula.Proofs.Number.Power

/-!
Products of integers are sized from their factors. The sizes of the factors add up to that of the
product or to one more, unless a factor is zero. So no product that fits is refused but that of zero
and a factor which is too wide by itself, and none is computed that has more than one bit too many.
-/

namespace Formula.Number

section

variable {m n : Nat}

theorem size_mul_le (m n : Nat) : (m * n).size ≤ m.size + n.size := by
  rw [Nat.size_le, Nat.pow_add]
  exact Nat.mul_lt_mul'' (Nat.lt_size_self m) (Nat.lt_size_self n)

theorem lt_size_mul (first : m ≠ 0) (second : n ≠ 0) :
    (m.size - 1) + (n.size - 1) < (m * n).size := by
  rw [Nat.lt_size, Nat.pow_add]
  exact Nat.mul_le_mul (two_pow_size_le first) (two_pow_size_le second)

end

variable {a b : Int} {limit : Nat}

/-- Of the products that fit, the bound on the factors refuses those with zero only. -/
theorem sizes_le_iff (fits : (a * b).natAbs.size ≤ limit) :
    a.natAbs.size + b.natAbs.size ≤ limit + 1 ↔
      (a * b = 0 → a.natAbs.size ≤ limit + 1 ∧ b.natAbs.size ≤ limit + 1) := by
  by_cases zero : a * b = 0
  · rcases mul_eq_zero.mp zero with rfl | rfl <;> simp
  · obtain ⟨first, second⟩ := mul_ne_zero_iff.mp zero
    have sized := lt_size_mul (Int.natAbs_ne_zero.mpr first) (Int.natAbs_ne_zero.mpr second)
    rw [Int.natAbs_mul] at fits
    exact iff_of_true (by omega) fun none => absurd none zero

theorem multiply_int (a b : Int) : multiply (.int a) (.int b) =
    if maxBits + 1 < bitLength a + bitLength b then .error .integerTooLarge
    else check (.int (a * b)) := rfl

/-- Integers are multiplied if and only if their product has at most as many bits as results may have
and is not that of zero and a factor of more than 10001 bits; and then the result is exact. Whatever
is computed at all has at most one bit more than results may have. -/
theorem multiply_sized (a b : Int) :
    (∀ r, multiply (.int a) (.int b) = .ok r ↔
      (a * b).natAbs.size ≤ 10000 ∧
        (a * b = 0 → a.natAbs.size ≤ 10001 ∧ b.natAbs.size ≤ 10001) ∧ r = .int (a * b)) ∧
    (bitLength a + bitLength b ≤ maxBits + 1 →
      multiply (.int a) (.int b) = check (.int (a * b)) ∧ (a * b).natAbs.size ≤ 10001) := by
  have inRange : (Number.int (a * b)).InRange ↔ (a * b).natAbs.size ≤ maxBits := by
    rw [InRange, bitLength_eq_size]
  rw [multiply_int, bitLength_eq_size, bitLength_eq_size]
  constructor
  · intro r
    split
    · rename_i wide
      refine iff_of_false (by simp) ?_
      rintro ⟨fits, narrow, -⟩
      exact absurd ((sizes_le_iff fits).mpr narrow) (Nat.not_le.mpr wide)
    · rename_i narrow
      rw [check_eq_ok_iff, inRange, and_comm]
      refine and_congr_right fun fits => ?_
      exact (and_iff_right ((sizes_le_iff fits).mp (Nat.le_of_not_lt narrow))).symm
  · intro sized
    refine ⟨if_neg (Nat.not_lt.mpr sized), ?_⟩
    rw [Int.natAbs_mul]
    exact (size_mul_le _ _).trans sized

theorem size_two_pow (k : Nat) : ((2 : Int) ^ k).natAbs.size = k + 1 := by
  rw [Int.natAbs_pow]
  exact Nat.size_pow

/-- Zero times an integer that is too wide itself is refused, though the product is zero. -/
theorem zero_times_wide_refused :
    ((0 : Int) * 2 ^ 10001).natAbs.size ≤ 10000 ∧
      multiply (.int 0) (.int (2 ^ 10001)) = .error .integerTooLarge := by
  constructor
  · rw [zero_mul]
    decide
  · rw [multiply_int, bitLength_eq_size, bitLength_eq_size, size_two_pow]
    rfl

end Formula.Number
