import Formula.Proofs.Calendar.Units
import Formula.Proofs.Number.Layout
import Formula.Proofs.Number.Rounding

/-!
Counting units of a fixed length. The count is the quotient of the span and the unit, rounded twice
on the way to a float and then down. It is never less than the units that fit in the span, and more
only if less than a tenth of a millisecond is missing.
-/

namespace Formula

open Calendar Binary

namespace Calendar

/-- The spans between dates, and some more. -/
def IsSpan (micros : Int) : Prop := micros.natAbs < 4000000 * microsPerDay

theorem IsSpan.abs_lt {micros : Int} (span : IsSpan micros) :
    |(micros : ℚ)| < 4000000 * 86400000000 := by
  have bound : (micros.natAbs : ℚ) < (4000000 * microsPerDay : Nat) := Nat.cast_lt.mpr span
  rw [Nat.cast_natAbs, Int.cast_abs] at bound
  exact_mod_cast bound

theorem TimeUnit.ofFloat_seconds {unit : TimeUnit} {seconds : Nat}
    (fixed : unit.seconds? = some seconds) :
    ∃ m e, ofFloat (Float.ofNat seconds) = .finite false m e ∧ m ≠ 0 ∧
      (m * 2 ^ e : ℚ) = seconds := by
  cases unit with
  | year => cases fixed
  | month => cases fixed
  | week => cases fixed; exact ⟨604800 * 2 ^ 33, -33, rfl, by decide, by norm_num⟩
  | day => cases fixed; exact ⟨86400 * 2 ^ 36, -36, rfl, by decide, by norm_num⟩
  | hour => cases fixed; exact ⟨3600 * 2 ^ 41, -41, rfl, by decide, by norm_num⟩
  | minute => cases fixed; exact ⟨60 * 2 ^ 47, -47, rfl, by decide, by norm_num⟩
  | second => cases fixed; exact ⟨2 ^ 52, -52, rfl, by decide, by norm_num⟩

end Calendar

namespace Stamp

variable {unit : TimeUnit} {seconds : Nat} {micros : Int}

theorem ofFloat_secondsOf (span : IsSpan micros) : ∃ m e,
    ofFloat (nearest (micros < 0) micros.natAbs microsPerSecond) = .finite (micros < 0) m e ∧
      Rounds (micros / 1000000) (signed (micros < 0) m * 2 ^ e) := by
  have bound := span.abs_lt
  have size : (micros.natAbs : ℚ) = |(micros : ℚ)| := by rw [Nat.cast_natAbs, Int.cast_abs]
  have perSecond : (microsPerSecond : ℚ) = 1000000 := by norm_num [microsPerSecond]
  have moderate : Moderate micros.natAbs microsPerSecond := by
    refine ⟨by decide, fun some => ?_, ?_⟩
    · have one : (1 : ℚ) ≤ micros.natAbs := mod_cast Nat.one_le_iff_ne_zero.mpr some
      rw [perSecond, le_div_iff₀ (by norm_num)]
      exact le_trans (by norm_num) one
    · rw [perSecond, size, div_lt_iff₀ (by norm_num)]
      linarith
  obtain ⟨m, e, finite, rounds⟩ := nearest_rounds (micros < 0) moderate
  rw [signed_natAbs, perSecond] at rounds
  exact ⟨m, e, finite, rounds⟩

theorem rounded_bounds {q v : ℚ} (rounds : Rounds q v) : |q| * (1 / 2) ≤ |v| ∧ |v| ≤ |q| * 2 := by
  have near := rounds.near
  have nonneg := abs_nonneg q
  have below := abs_sub_abs_le_abs_sub v q
  have above := abs_sub_abs_le_abs_sub q v
  rw [abs_sub_comm q v] at above
  constructor <;> linarith

theorem abs_signed (negative : Bool) (m : Nat) (e : Int) :
    |(signed negative m * 2 ^ e : ℚ)| = m * 2 ^ e := by
  rw [abs_mul, abs_of_pos (zpow_pos (two_pos (α := ℚ)) e)]
  cases negative <;> simp [signed]

/-- The count of a span is the whole part of a rational that is next to the quotient of the span and
the length of the unit. -/
theorem unitsOf_eq_floor (fixed : unit.seconds? = some seconds) (span : IsSpan micros) :
    ∃ v w : ℚ, unitsOf micros seconds = ⌊w⌋ ∧ Rounds (micros / 1000000) v ∧ Rounds (v / seconds) w := by
  obtain ⟨m, e, dividend, rounds⟩ := ofFloat_secondsOf span
  obtain ⟨n, f, divisor, nonzero, length⟩ := TimeUnit.ofFloat_seconds fixed
  have bound := span.abs_lt
  have size := abs_signed (micros < 0) m e
  have bounds := rounded_bounds rounds
  rw [size, abs_div, abs_of_pos (show (0 : ℚ) < 1000000 by norm_num)] at bounds
  have least : (1 : ℚ) ≤ seconds ∧ (seconds : ℚ) ≤ 604800 := by
    cases unit <;> cases fixed <;> norm_num
  have large : m ≠ 0 → (2 : ℚ) ^ (-100 : Int) ≤ m * 2 ^ e / (n * 2 ^ f) := by
    intro some
    have span : micros ≠ 0 := by
      rintro rfl
      rw [Int.cast_zero, abs_zero, zero_div, zero_mul] at bounds
      have positive : (0 : ℚ) < m * 2 ^ e := by positivity
      linarith
    have one : (1 : ℚ) ≤ |(micros : ℚ)| := mod_cast Int.one_le_abs span
    rw [length, le_div_iff₀ (by linarith)]
    norm_num at bounds ⊢
    linarith
  have small : (m * 2 ^ e / (n * 2 ^ f) : ℚ) < 2 ^ 53 := by
    rw [length, div_lt_iff₀ (by linarith)]
    linarith
  obtain ⟨m', e', finite, rounds'⟩ := div_rounds dividend divisor nonzero large small
  rw [length] at rounds'
  refine ⟨_, _, ?_, rounds, rounds'⟩
  unfold unitsOf
  dsimp only
  rw [finite]
  exact floor_eq _ _ _

theorem unitMicros_eq (seconds : Nat) : (unitMicros seconds : ℚ) = seconds * 1000000 := by
  unfold unitMicros
  push_cast
  norm_num [microsPerSecond]

/-- What the count is the whole part of is less than a tenth of a millisecond away from the quotient
of the span and the unit, on the same side of every whole number. -/
theorem unitsOf_near (fixed : unit.seconds? = some seconds) (span : IsSpan micros) :
    ∃ w : ℚ, unitsOf micros seconds = ⌊w⌋ ∧ w * unitMicros seconds < micros + 100 ∧
      (∀ k : ℤ, k * unitMicros seconds ≤ micros → (k : ℚ) ≤ w) ∧
      (∀ k : ℤ, micros ≤ k * unitMicros seconds → w ≤ k) := by
  obtain ⟨v, w, count, first, second⟩ := unitsOf_eq_floor fixed span
  have bound := span.abs_lt
  have positive : (0 : ℚ) < seconds := by
    cases unit <;> cases fixed <;> norm_num
  have length := unitMicros_eq seconds
  refine ⟨w, count, ?_, fun k le => ?_, fun k le => ?_⟩
  · have scaled : |w * seconds - v| ≤ |v| / 2 ^ 53 := by
      have apart : w * seconds - v = (w - v / seconds) * seconds := by field_simp
      calc |w * seconds - v|
        _ = |w - v / seconds| * seconds := by rw [apart, abs_mul, abs_of_pos positive]
        _ ≤ |v / seconds| / 2 ^ 53 * seconds :=
          mul_le_mul_of_nonneg_right second.near positive.le
        _ = |v| / 2 ^ 53 := by
          rw [abs_div, abs_of_pos positive]
          field_simp
    have near := first.near
    rw [abs_div, abs_of_pos (show (0 : ℚ) < 1000000 by norm_num)] at near
    have size := abs_sub_abs_le_abs_sub v (micros / 1000000 : ℚ)
    rw [abs_div, abs_of_pos (show (0 : ℚ) < 1000000 by norm_num)] at size
    have upper := (abs_le.mp scaled).2
    have upper' := (abs_le.mp near).2
    rw [length]
    linarith
  · apply second.above
    rw [le_div_iff₀ positive]
    have whole : ((k * seconds : ℤ) : ℚ) ≤ v := by
      apply first.above
      rw [le_div_iff₀ (by norm_num)]
      rw [← @Int.cast_le ℚ] at le
      push_cast [length] at le ⊢
      linarith
    exact_mod_cast whole
  · apply second.below
    rw [div_le_iff₀ positive]
    have whole : v ≤ ((k * seconds : ℤ) : ℚ) := by
      apply first.below
      rw [div_le_iff₀ (by norm_num)]
      rw [← @Int.cast_le ℚ] at le
      push_cast [length] at le ⊢
      linarith
    exact_mod_cast whole

/-- The count is at least as large as the units that fit, and hardly larger. -/
theorem unitsOf_bounds (fixed : unit.seconds? = some seconds) (span : IsSpan micros) :
    micros < (unitsOf micros seconds + 1) * unitMicros seconds ∧
      unitsOf micros seconds * unitMicros seconds < micros + 100 := by
  obtain ⟨w, count, near, above, -⟩ := unitsOf_near fixed span
  have positive : (0 : ℤ) < unitMicros seconds := Int.natCast_pos.mpr (unitMicros_pos fixed)
  constructor
  · have fits : micros / unitMicros seconds ≤ unitsOf micros seconds := by
      rw [count, Int.le_floor]
      exact above _ (Int.ediv_mul_le _ positive.ne')
    exact (Int.ediv_lt_iff_lt_mul positive).mp (Int.lt_add_one_of_le fits)
  · have least : (unitsOf micros seconds : ℚ) ≤ w := count ▸ Int.floor_le w
    have scaled := mul_le_mul_of_nonneg_right least (Nat.cast_nonneg (α := ℚ) (unitMicros seconds))
    exact_mod_cast scaled.trans_lt near

theorem unitsOf_mul {n : Int} (fixed : unit.seconds? = some seconds)
    (span : IsSpan (n * unitMicros seconds)) :
    unitsOf (n * unitMicros seconds) seconds = n := by
  obtain ⟨w, count, -, above, below⟩ := unitsOf_near fixed span
  have same : w = n := le_antisymm (below n (le_refl _)) (above n (le_refl _))
  rw [count, same, Int.floor_intCast]

theorem natAbs_unitsOf_lt (fixed : unit.seconds? = some seconds) (span : IsSpan micros) :
    (unitsOf micros seconds).natAbs < 2 ^ 64 := by
  obtain ⟨fits, near⟩ := unitsOf_bounds fixed span
  have positive : (1 : ℤ) ≤ unitMicros seconds := Int.natCast_pos.mpr (unitMicros_pos fixed)
  generalize unitsOf micros seconds = k at *
  unfold IsSpan microsPerDay at span
  rcases lt_or_ge k 0 with negative | nonneg
  · have := mul_le_mul_of_nonpos_left positive (show k + 1 ≤ 0 by omega)
    omega
  · have := mul_le_mul_of_nonneg_left positive nonneg
    omega

/-- The count is the quotient rounded down, or one more if the span is just below the next whole
number of units. -/
theorem unitsOf_eq_ediv_or (fixed : unit.seconds? = some seconds) (span : IsSpan micros) :
    unitsOf micros seconds = micros / unitMicros seconds ∨
      unitsOf micros seconds = micros / unitMicros seconds + 1 ∧
        unitMicros seconds < micros % unitMicros seconds + 100 := by
  obtain ⟨fits, near⟩ := unitsOf_bounds fixed span
  have long : (100 : ℤ) ≤ unitMicros seconds := by
    cases unit <;> cases fixed <;> decide
  have split := Int.emod_add_mul_ediv micros (unitMicros seconds)
  have rest := Int.emod_lt_of_pos micros (show (0 : ℤ) < unitMicros seconds by omega)
  have least := Int.lt_add_one_iff.mp ((Int.ediv_lt_iff_lt_mul (by omega)).mpr fits)
  have most : unitsOf micros seconds < micros / unitMicros seconds + 2 := by
    apply lt_of_mul_lt_mul_right _ (show (0 : ℤ) ≤ unitMicros seconds by omega)
    rw [add_mul, mul_comm (micros / _)]
    omega
  rcases Int.lt_or_eq_of_le least with more | same
  · have next : unitsOf micros seconds = micros / unitMicros seconds + 1 := by omega
    rw [next, add_mul, mul_comm (micros / _)] at near
    exact .inr ⟨next, by omega⟩
  · exact .inl same.symm

/-! ### The spans between dates -/

theorem isSpan_of_reading {s t : Stamp} : IsSpan (t.reading - s.reading) := by
  have first := s.reading_lt
  have second := t.reading_lt
  unfold IsSpan
  unfold microsPerDay at *
  omega

theorem isSpan_of_until? {m n : Moment} (apart : m.until? n = some micros) : IsSpan micros := by
  have first := (Stamp.moment m).reading_lt
  have second := (Stamp.moment n).reading_lt
  have first' := m.instant_bounds
  have second' := n.instant_bounds
  rw [reading_moment] at first second
  unfold IsSpan
  unfold microsPerDay at *
  cases shares : m.sharesRegion n with
  | true =>
      rw [Moment.until?_of_sharesRegion shares, Option.some_inj] at apart
      omega
  | false =>
      have alike := Moment.comparable_of_until? apart
      rw [Moment.until?_of_not_sharesRegion shares alike, Option.some_inj] at apart
      omega

end Stamp

end Formula
