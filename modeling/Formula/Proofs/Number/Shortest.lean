import Formula.Proofs.Number.Digits
import Formula.Proofs.Number.Nearest

/-!
The shortest decimal of a float lies in the neighbourhood of the float, so that it reads back as the
same float.
-/

namespace Formula.Decimal

open Formula.Binary

/-- The value of a decimal without its sign. -/
def magnitude (d : Decimal) : ℚ := d.coefficient * 10 ^ d.exponent

/-! ### Decimal grids -/

theorem cast_tenTo (k : Nat) : (tenTo k : ℚ) = 10 ^ k := by
  rw [tenTo, Nat.pow_eq, Nat.cast_pow, Nat.cast_ofNat]

/-- One of the two powers is one, as one of the exponents is zero. -/
theorem cast_twoTo_eq (k : Int) : (twoTo k.toNat : ℚ) = 2 ^ k * twoTo (-k).toNat := by
  rw [cast_twoTo, cast_twoTo, ← zpow_natCast, ← zpow_natCast, ← zpow_add₀ two_ne_zero]
  congr 1
  omega

theorem cast_tenTo_eq (k : Int) : (tenTo (-k).toNat : ℚ) = tenTo k.toNat / 10 ^ k := by
  rw [cast_tenTo, cast_tenTo, ← zpow_natCast, ← zpow_natCast, ← zpow_sub₀ (by norm_num)]
  congr 1
  omega

section

variable (n : Nat) (binary decimal : Int)

theorem onGrid_snd_pos : 0 < (onGrid n binary decimal).2 :=
  Nat.mul_pos (Nat.two_pow_pos _) (Nat.pow_pos (by decide))

theorem onGrid_eq : ((onGrid n binary decimal).1 : ℚ) =
    n * 2 ^ binary / 10 ^ decimal * (onGrid n binary decimal).2 := by
  unfold onGrid
  push_cast
  rw [cast_twoTo_eq binary, cast_tenTo_eq decimal]
  ring

variable {n binary decimal}

theorem onGrid_le_iff {k : Nat} : (onGrid n binary decimal).1 ≤ k * (onGrid n binary decimal).2 ↔
    (n * 2 ^ binary : ℚ) ≤ k * 10 ^ decimal := by
  have units : (0 : ℚ) < (onGrid n binary decimal).2 := Nat.cast_pos.mpr (onGrid_snd_pos _ _ _)
  rw [← @Nat.cast_le ℚ, Nat.cast_mul, onGrid_eq, mul_le_mul_iff_left₀ units,
    div_le_iff₀ (zpow_pos (by norm_num) _)]

theorem le_onGrid_iff {k : Nat} : k * (onGrid n binary decimal).2 ≤ (onGrid n binary decimal).1 ↔
    (k * 10 ^ decimal : ℚ) ≤ n * 2 ^ binary := by
  have units : (0 : ℚ) < (onGrid n binary decimal).2 := Nat.cast_pos.mpr (onGrid_snd_pos _ _ _)
  rw [← @Nat.cast_le ℚ, Nat.cast_mul, onGrid_eq, mul_le_mul_iff_left₀ units,
    le_div_iff₀ (zpow_pos (by norm_num) _)]

end

/-! ### Points of a grid in a neighbourhood -/

namespace Neighbourhood

variable {r : Neighbourhood} {n : Nat} {decimal : Int}

theorem Holds.of_inner {q : ℚ} (above : r.low * 2 ^ r.exponent < q)
    (below : q < r.high * 2 ^ r.exponent) : r.Holds q :=
  ⟨above.le, below.le, fun _ => ⟨above, below⟩⟩

theorem contains_iff : r.contains n decimal = true ↔ r.Holds (n * 10 ^ decimal) := by
  unfold contains
  dsimp only
  cases closed : r.closed with
  | true =>
      rw [if_pos rfl, Bool.and_eq_true, decide_eq_true_iff, decide_eq_true_iff, onGrid_le_iff,
        le_onGrid_iff]
      exact ⟨fun both => ⟨both.1, both.2, fun no => absurd (closed.symm.trans no) (by decide)⟩,
        fun holds => ⟨holds.least, holds.greatest⟩⟩
  | false =>
      rw [if_neg Bool.false_ne_true, Bool.and_eq_true, decide_eq_true_iff, decide_eq_true_iff,
        ← not_le, ← not_le, le_onGrid_iff, onGrid_le_iff, not_le, not_le]
      exact ⟨fun both => .of_inner both.1 both.2, fun holds => holds.inner closed⟩

theorem holds_of_pointOn? (found : r.pointOn? decimal = some n) : r.Holds (n * 10 ^ decimal) := by
  rw [← contains_iff]
  unfold pointOn? at found
  dsimp only at found
  split at found
  · split at found
    · cases found
      assumption
    · cases found
      assumption
  · cases found
    assumption
  · cases found
    assumption
  · cases found

theorem isSome_pointOn? (near : let scaled := onGrid r.value r.exponent decimal
      r.Holds ((scaled.1 / scaled.2 : Nat) * 10 ^ decimal) ∨
        r.Holds ((scaled.1 / scaled.2 + 1 : Nat) * 10 ^ decimal)) :
    (r.pointOn? decimal).isSome = true := by
  dsimp only at near
  rw [← contains_iff, ← contains_iff] at near
  unfold pointOn?
  dsimp only
  split
  · split <;> rfl
  · rfl
  · rfl
  · rename_i neither other
    rcases near with below | above
    · exact absurd (neither.symm.trans below) Bool.false_ne_true
    · exact absurd (other.symm.trans above) Bool.false_ne_true

end Neighbourhood

/-! ### Seventeen digits -/

section

variable {m : Nat} {e grid : Int}

theorem neighbourhood_value :
    ((neighbourhood m e).value : ℚ) * 2 ^ (neighbourhood m e).exponent = m * 2 ^ e := by
  unfold neighbourhood
  dsimp only
  rw [quarter_eq]
  push_cast
  ring

/-- Of the two points next to a float one lies in its neighbourhood, as soon as the grid is finer
than the neighbourhood is wide. -/
theorem isSome_pointOn?_of_fine (legal : Legal m e) (positive : m ≠ 0)
    (fine : (10 : ℚ) ^ grid * 10 ^ 16 ≤ m * 2 ^ e) :
    ((neighbourhood m e).pointOn? grid).isSome = true := by
  have unit : (0 : ℚ) < 2 ^ e := zpow_pos two_pos _
  have short : (m : ℚ) < 2 ^ 53 := mod_cast legal.short
  refine Neighbourhood.isSome_pointOn? ?_
  dsimp only
  have units := onGrid_snd_pos (neighbourhood m e).value (neighbourhood m e).exponent grid
  generalize quotient : (onGrid (neighbourhood m e).value (neighbourhood m e).exponent grid).1 /
    (onGrid (neighbourhood m e).value (neighbourhood m e).exponent grid).2 = below
  have least := le_onGrid_iff.mp ((Nat.le_div_iff_mul_le units).mp quotient.ge)
  have greatest : ¬ ((neighbourhood m e).value * 2 ^ (neighbourhood m e).exponent : ℚ) ≥
      (below + 1 : Nat) * 10 ^ grid := fun above => by
    have := (Nat.le_div_iff_mul_le units).mpr (le_onGrid_iff.mpr above)
    omega
  rw [neighbourhood_value] at least greatest
  push_cast at greatest ⊢
  -- half a unit above, and half or a quarter of one below
  have width : (10 : ℚ) ^ grid <
      ((if m = 2 ^ 52 ∧ e ≠ minExponent then 1 / 4 else 1 / 2) + 1 / 2) * 2 ^ e := by
    split
    · rename_i narrow
      rw [narrow.1] at fine
      push_cast at fine
      linarith
    · have : (m * 2 ^ e : ℚ) < 2 ^ 53 * 2 ^ e := mul_lt_mul_of_pos_right short unit
      linarith
  by_cases near : (m - if m = 2 ^ 52 ∧ e ≠ minExponent then 1 / 4 else 1 / 2) * 2 ^ e <
      (below * 10 ^ grid : ℚ)
  · refine .inl (.of_inner ?_ ?_)
    · rwa [neighbourhood_low positive]
    · rw [neighbourhood_high]
      linarith
  · refine .inr (.of_inner ?_ ?_)
    · rw [neighbourhood_low positive]
      refine lt_of_lt_of_le (mul_lt_mul_of_pos_right ?_ unit) (not_le.mp greatest).le
      refine sub_lt_self _ ?_
      split <;> norm_num
    · rw [neighbourhood_high]
      linarith

end

/-! ### The first digit -/

/-- A fraction near the logarithm tells which power of two a power of ten does not reach. -/
theorem ten_zpow_le_of_fraction {decimal binary : Int} {p k : Nat} (positive : k ≠ 0)
    (near : ((10 : ℚ) ^ k) ^ decimal ≤ (2 ^ p) ^ decimal) (exponents : p * decimal ≤ binary * k) :
    (10 : ℚ) ^ decimal ≤ 2 ^ binary := by
  refine (pow_le_pow_iff_left₀ (by positivity) (by positivity) positive).mp ?_
  calc ((10 : ℚ) ^ decimal) ^ k
    _ = (10 ^ k) ^ decimal := by rw [← zpow_natCast, ← zpow_natCast, zpow_comm]
    _ ≤ (2 ^ p) ^ decimal := near
    _ = 2 ^ (p * decimal) := by rw [← zpow_natCast, ← zpow_mul]
    _ ≤ 2 ^ (binary * k) := zpow_le_zpow_right₀ one_le_two exponents
    _ = (2 ^ binary) ^ k := by rw [zpow_mul, zpow_natCast]

/-- Powers of ten and two are compared by one fraction above the logarithm and one below it. -/
theorem ten_zpow_le_two_zpow {decimal binary : Int} (wide : -2000 ≤ binary ∧ binary ≤ 2000)
    (guessed : (decimal + 1) * 100000 ≤ binary * 30103) : (10 : ℚ) ^ decimal ≤ 2 ^ binary := by
  rcases Int.le_total 0 decimal with large | small
  · have near : ((10 : ℚ) ^ 59) ^ decimal ≤ (2 ^ 196) ^ decimal :=
      zpow_le_zpow_left₀ large (by norm_num) (by norm_num)
    exact ten_zpow_le_of_fraction (by decide) near (by push_cast; omega)
  · have near : ((10 : ℚ) ^ 28) ^ decimal ≤ (2 ^ 93) ^ decimal := by
      obtain ⟨k, rfl⟩ := Int.exists_eq_neg_ofNat small
      rw [zpow_neg, zpow_neg, zpow_natCast, zpow_natCast]
      exact inv_anti₀ (by positivity) (pow_le_pow_left₀ (by norm_num) (by norm_num) k)
    exact ten_zpow_le_of_fraction (by decide) near (by push_cast; omega)

/-- The power of ten that is taken for the first digit of a value is not above it. -/
theorem firstExponent_le {n : Nat} {exponent : Int} (positive : n ≠ 0)
    (wide : -2000 ≤ (n.log2 : Int) + exponent ∧ (n.log2 : Int) + exponent ≤ 2000) :
    (10 : ℚ) ^ firstExponent n exponent ≤ n * 2 ^ exponent := by
  have reaches {decimal : Int}
      (above : (onGrid n exponent decimal).2 ≤ (onGrid n exponent decimal).1) :
      (10 : ℚ) ^ decimal ≤ n * 2 ^ exponent := by
    have point := (@le_onGrid_iff n exponent decimal 1).mp (by rwa [Nat.one_mul])
    rwa [Nat.cast_one, one_mul] at point
  unfold firstExponent
  dsimp only
  split
  · have guessed : (((n.log2 : Int) + exponent) * 30103 / 100000 - 1 + 1) * 100000 ≤
        ((n.log2 : Int) + exponent) * 30103 := by omega
    refine (ten_zpow_le_two_zpow wide guessed).trans ?_
    rw [zpow_add₀ two_ne_zero, zpow_natCast]
    refine mul_le_mul_of_nonneg_right ?_ (zpow_pos two_pos _).le
    exact_mod_cast Nat.log2_self_le positive
  · rename_i atGuess
    split
    · exact reaches ‹_›
    · exact reaches (Nat.le_of_not_lt atGuess)

theorem le_firstExponent (n : Nat) (exponent : Int) :
    ((n.log2 : Int) + exponent) * 30103 / 100000 - 1 ≤ firstExponent n exponent := by
  unfold firstExponent
  dsimp only
  split
  · exact le_refl _
  · split <;> omega

/-! ### The shortest decimal -/

theorem stripZeros_negative (negative : Bool) (n : Nat) (exponent : Int) :
    (stripZeros negative n exponent).negative = negative := by
  induction n, exponent using stripZeros.induct with
  | case1 exponent => rw [stripZeros]
  | case2 n exponent zero ih => rwa [stripZeros, if_pos zero]
  | case3 n exponent digit => rw [stripZeros, if_neg digit]

/-- Without the zeros at its end a decimal has the same value. -/
theorem stripZeros_magnitude (negative : Bool) (n : Nat) (exponent : Int) :
    (stripZeros negative n exponent).magnitude = n * 10 ^ exponent := by
  induction n, exponent using stripZeros.induct with
  | case1 exponent => rw [stripZeros, magnitude]
  | case2 n exponent zero ih =>
      have whole : (n + 1) / 10 * 10 = n + 1 := Nat.div_mul_cancel (Nat.dvd_of_mod_eq_zero zero)
      rw [stripZeros, if_pos zero, ih, zpow_add_one₀ (by norm_num), mul_left_comm, mul_comm]
      congr 1
      exact_mod_cast whole
  | case3 n exponent digit => rw [stripZeros, if_neg digit, magnitude]

theorem le_exponent_stripZeros (negative : Bool) (n : Nat) (exponent : Int) :
    exponent ≤ (stripZeros negative n exponent).exponent := by
  induction n, exponent using stripZeros.induct with
  | case1 exponent => rw [stripZeros]
  | case2 n exponent zero ih =>
      rw [stripZeros, if_pos zero]
      omega
  | case3 n exponent digit => rw [stripZeros, if_neg digit]

section

variable {m : Nat} {e : Int}

theorem log2_bounds (legal : Legal m e) (positive : m ≠ 0) :
    -2000 ≤ ((4 * m).log2 : Int) + (e - 2) ∧ ((4 * m).log2 : Int) + (e - 2) ≤ 2000 := by
  have size : (4 * m).log2 < 55 := (Nat.log2_lt (by omega)).mpr (by have := legal.short; omega)
  have least := legal.least
  have greatest := legal.greatest
  unfold minExponent at least
  omega

/-- Some point of the first seventeen grids is taken. -/
theorem shortestOf_eq (legal : Legal m e) (positive : m ≠ 0) (negative : Bool) :
    ∃ n grid, shortestOf negative m e = stripZeros negative n grid ∧
      (neighbourhood m e).pointOn? grid = some n ∧ -1000 ≤ grid := by
  unfold shortestOf
  rw [if_neg positive]
  dsimp only
  have least := le_firstExponent (neighbourhood m e).value (neighbourhood m e).exponent
  have size : -2000 ≤ ((neighbourhood m e).value.log2 : Int) + (neighbourhood m e).exponent :=
    (log2_bounds legal positive).1
  generalize first : firstExponent (neighbourhood m e).value (neighbourhood m e).exponent = exponent
    at least ⊢
  have above : (10 : ℚ) ^ exponent ≤ m * 2 ^ e := by
    rw [← first, ← neighbourhood_value]
    exact firstExponent_le (by unfold neighbourhood; dsimp only; omega) (log2_bounds legal positive)
  have last : ((neighbourhood m e).pointOn? (exponent - (16 : Nat))).isSome = true := by
    refine isSome_pointOn?_of_fine legal positive ?_
    rw [zpow_sub₀ (by norm_num), zpow_natCast]
    simpa using above
  split
  · rename_i n grid found
    obtain ⟨taken, member, chosen⟩ := List.exists_of_findSome?_eq_some found
    obtain ⟨n, point, same⟩ := Option.map_eq_some_iff.mp chosen
    obtain ⟨digits, few, rfl⟩ := List.mem_map.mp member
    cases same
    have most : digits < 17 := List.mem_range.mp few
    exact ⟨_, _, rfl, point, by omega⟩
  · rename_i none
    have missing := List.findSome?_eq_none_iff.mp none (exponent - (16 : Nat))
      (List.mem_map.mpr ⟨16, by decide, rfl⟩)
    rw [Option.map_eq_none_iff.mp missing] at last
    cases last

theorem shortestOf_negative (legal : Legal m e) (negative : Bool) :
    (shortestOf negative m e).negative = negative := by
  by_cases zero : m = 0
  · rw [shortestOf, if_pos zero]
  · obtain ⟨n, grid, same, -, -⟩ := shortestOf_eq legal zero negative
    rw [same, stripZeros_negative]

theorem le_exponent_shortestOf (legal : Legal m e) (negative : Bool) :
    -1000 ≤ (shortestOf negative m e).exponent := by
  by_cases zero : m = 0
  · rw [shortestOf, if_pos zero]
    exact show (-1000 : Int) ≤ -1 by decide
  · obtain ⟨n, grid, same, -, least⟩ := shortestOf_eq legal zero negative
    rw [same]
    exact least.trans (le_exponent_stripZeros negative n grid)

theorem shortestOf_holds (legal : Legal m e) (positive : m ≠ 0) (negative : Bool) :
    (neighbourhood m e).Holds (shortestOf negative m e).magnitude := by
  obtain ⟨n, grid, same, point, -⟩ := shortestOf_eq legal positive negative
  rw [same, stripZeros_magnitude]
  exact Neighbourhood.holds_of_pointOn? point

end

/-! ### Reading it back -/

section

variable {d : Decimal}

theorem leadingExponent_bounds (positive : d.coefficient ≠ 0) :
    (10 : ℚ) ^ d.leadingExponent ≤ d.magnitude ∧ d.magnitude < 10 ^ (d.leadingExponent + 1) := by
  have unit : (0 : ℚ) < 10 ^ d.exponent := zpow_pos (by norm_num) _
  have least : (10 : ℚ) ^ (digitCount d.coefficient - 1) ≤ d.coefficient :=
    mod_cast pow_digitCount_le positive
  have greatest : (d.coefficient : ℚ) < 10 ^ digitCount d.coefficient :=
    mod_cast lt_pow_digitCount d.coefficient
  have some := digitCount_pos d.coefficient
  constructor
  · have shift : d.leadingExponent = ((digitCount d.coefficient - 1 : Nat) : Int) + d.exponent := by
      rw [leadingExponent]
      omega
    rw [shift, zpow_add₀ (by norm_num), zpow_natCast]
    exact mul_le_mul_of_nonneg_right least unit.le
  · have shift : d.leadingExponent + 1 = (digitCount d.coefficient : Int) + d.exponent := by
      rw [leadingExponent]
      omega
    rw [shift, zpow_add₀ (by norm_num), zpow_natCast]
    exact mul_lt_mul_of_pos_right greatest unit

/-- A decimal in the neighbourhood of a float is not so far out that it is not computed. -/
theorem leadingExponent_near {m : Nat} {e : Int} (legal : Legal m e) (positive : m ≠ 0)
    (digits : d.coefficient ≠ 0) (holds : (neighbourhood m e).Holds d.magnitude) :
    -400 ≤ d.leadingExponent ∧ d.leadingExponent ≤ 400 := by
  obtain ⟨above, below⟩ := leadingExponent_bounds digits
  have greatest := holds.greatest
  rw [neighbourhood_high] at greatest
  have unit : (0 : ℚ) < 2 ^ e := zpow_pos two_pos _
  have short : (m : ℚ) + 1 ≤ 2 ^ 53 := mod_cast legal.short
  constructor
  · by_contra! small
    have low : (1 / 2 : ℚ) * 2 ^ (-1074 : Int) ≤ d.magnitude := by
      refine (mul_le_mul_of_nonneg_left ?_ one_half_pos.le).trans (holds.half_le positive)
      exact zpow_le_zpow_right₀ one_le_two legal.least
    have high : (10 : ℚ) ^ (d.leadingExponent + 1) ≤ 10 ^ (-400 : Int) :=
      zpow_le_zpow_right₀ (by norm_num) (by omega)
    have apart : (10 : ℚ) ^ (-400 : Int) ≤ 1 / 2 * 2 ^ (-1074 : Int) := by
      rw [one_div, ← zpow_neg_one, ← zpow_add₀ two_ne_zero]
      exact ten_zpow_le_two_zpow (by decide) (by decide)
    exact absurd (below.trans_le (high.trans apart)) (not_lt.mpr low)
  · by_contra! large
    have high : d.magnitude ≤ 2 ^ 53 * 2 ^ (971 : Int) :=
      greatest.trans (mul_le_mul (by linarith) (zpow_le_zpow_right₀ one_le_two legal.greatest)
        unit.le (by norm_num))
    have low : (10 : ℚ) ^ (400 : Int) ≤ 10 ^ d.leadingExponent :=
      zpow_le_zpow_right₀ (by norm_num) (by omega)
    have apart : (2 : ℚ) ^ 53 * 2 ^ (971 : Int) < 10 ^ (400 : Int) :=
      calc (2 : ℚ) ^ 53 * 2 ^ (971 : Int)
        _ = 2 ^ (1024 : Int) := by rw [← zpow_natCast, ← zpow_add₀ two_ne_zero]; rfl
        _ ≤ 2 ^ (3 * 400 : Int) := zpow_le_zpow_right₀ one_le_two (by decide)
        _ = (2 ^ (3 : Int)) ^ (400 : Int) := zpow_mul 2 3 400
        _ < 10 ^ (400 : Int) := zpow_lt_zpow_left₀ (by decide) (by norm_num) (by norm_num)
    exact absurd (low.trans above) (not_le.mpr (high.trans_lt apart))

/-- A decimal in the neighbourhood of a float reads as that float. -/
theorem toFloat_of_holds {m : Nat} {e : Int} (legal : Legal m e) (positive : m ≠ 0)
    (holds : (neighbourhood m e).Holds d.magnitude) :
    d.toFloat = assemble d.negative (magnitudeOf m e) := by
  have digits : d.coefficient ≠ 0 := fun zero =>
    holds.ne_zero positive (by rw [magnitude, zero, Nat.cast_zero, zero_mul])
  obtain ⟨near, far⟩ := leadingExponent_near legal positive digits holds
  unfold toFloat
  rw [if_neg (by omega), if_neg (by omega)]
  split
  · have ten : tenTo (-d.exponent).toNat ≠ 0 := (Nat.pow_pos (by decide)).ne'
    refine nearest_of_holds legal positive ten ?_ d.negative
    have value : (d.coefficient / tenTo (-d.exponent).toNat : ℚ) = d.magnitude := by
      rw [cast_tenTo, magnitude, ← zpow_natCast, Int.toNat_of_nonneg (by omega), zpow_neg,
        div_inv_eq_mul]
    rwa [value]
  · refine nearest_of_holds legal positive Nat.one_ne_zero ?_ d.negative
    have value :
        ((d.coefficient * tenTo d.exponent.toNat : Nat) / (1 : Nat) : ℚ) = d.magnitude := by
      rw [Nat.cast_mul, cast_tenTo, magnitude, ← zpow_natCast, Int.toNat_of_nonneg (by omega),
        Nat.cast_one, div_one]
    rwa [value]

/-- Every decimal of the value of the shortest one reads as the float. -/
theorem toFloat_of_magnitude_eq {x : Float} {negative : Bool} {m : Nat} {e : Int}
    (finite : ofFloat x = .finite negative m e) (sign : d.negative = negative)
    (same : d.magnitude = (shortestOf negative m e).magnitude) : d.toFloat = x := by
  obtain ⟨legal, whole⟩ := assemble_of_ofFloat finite
  rw [← whole]
  by_cases zero : m = 0
  · have least : e = minExponent := legal.normal (by omega)
    have none : d.coefficient = 0 := by
      rw [shortestOf, if_pos zero, magnitude, magnitude, Nat.cast_zero, zero_mul,
        mul_eq_zero] at same
      exact Nat.cast_eq_zero.mp (same.resolve_right (zpow_pos (by norm_num) _).ne')
    rw [toFloat, if_pos (.inl none), sign, zero, least]
    rfl
  · rw [← sign]
    refine toFloat_of_holds legal zero ?_
    rw [same]
    exact shortestOf_holds legal zero negative

end

end Formula.Decimal
