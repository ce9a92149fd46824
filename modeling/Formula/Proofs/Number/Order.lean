import Formula.Proofs.Number.Binary

/-!
The order of numbers. Every number but what is none stands for a point of the rational line with
both its ends, and numbers are ordered as these points are.
-/

namespace Formula

namespace Binary

/-- The point of the rational line, or the end of it, that a float stands for. -/
def value? : Binary → Option (WithBot (WithTop ℚ))
  | .finite negative significand exponent =>
      some (((signed negative significand * 2 ^ exponent : ℚ) : WithTop ℚ) : WithBot (WithTop ℚ))
  | .infinite negative => some (if negative then ⊥ else (⊤ : WithTop ℚ))
  | .nan => none

theorem value?_eq_none_iff {a : Binary} : a.value? = none ↔ a = .nan := by
  cases a <;> simp [value?]

theorem signed_mul (negative : Bool) (n factor : Nat) :
    signed negative (n * factor) = signed negative n * factor := by
  cases negative <;> simp [signed]

theorem cast_signed (negative : Bool) (n : Nat) :
    (signed negative n : ℚ) = (if negative then -1 else 1) * n := by
  cases negative <;> simp [signed]

/-- A value stays the same in smaller units. -/
theorem signed_mul_two_zpow (negative : Bool) (n : Nat) {exponent unit : Int}
    (smaller : unit ≤ exponent) :
    (signed negative n * 2 ^ exponent : ℚ) =
      signed negative (n * twoTo (exponent - unit).toNat) * 2 ^ unit := by
  have shift : exponent = ((exponent - unit).toNat : Int) + unit := by omega
  have power : (2 : ℚ) ^ exponent = (twoTo (exponent - unit).toNat : ℕ) * 2 ^ unit := by
    conv_lhs => rw [shift, zpow_add₀ two_ne_zero, zpow_natCast]
    rw [twoTo, Nat.pow_eq]
    push_cast
    rfl
  rw [signed_mul, power]
  push_cast
  ring

theorem compare_finite (s t : Bool) (m n : Nat) (p q : Int) :
    (finite s m p).compare? (finite t n q) =
      some (cmp (signed s m * 2 ^ p : ℚ) (signed t n * 2 ^ q)) := by
  have unit : (0 : ℚ) < 2 ^ min p q := zpow_pos two_pos _
  have castMono : StrictMono (Int.cast : ℤ → ℚ) := Int.cast_strictMono
  rw [signed_mul_two_zpow s m (min_le_left p q), signed_mul_two_zpow t n (min_le_right p q),
    cmp_mul_pos_right unit, castMono.cmp_map_eq, cmp_eq_compare]
  rfl

/-- Floats are ordered as the points that they stand for. -/
theorem compare?_eq_cmp (a b : Binary) :
    a.compare? b = a.value?.bind fun v => b.value?.map (cmp v) := by
  have coeMono : StrictMono fun x : ℚ => ((x : WithTop ℚ) : WithBot (WithTop ℚ)) :=
    WithBot.coe_strictMono.comp WithTop.coe_strictMono
  cases a with
  | nan => rfl
  | infinite s =>
      cases b with
      | nan => rfl
      | infinite t => cases s <;> cases t <;> rfl
      | finite t n q => cases s <;> rfl
  | finite s m p =>
      cases b with
      | nan => rfl
      | infinite t => cases t <;> rfl
      | finite t n q =>
          rw [compare_finite, ← coeMono.cmp_map_eq]
          rfl

theorem ofBits_eq_nan_iff (bits : Nat) :
    ofBits bits = .nan ↔ bits / 2 ^ 52 % 2 ^ 11 = 2047 ∧ bits % 2 ^ 52 ≠ 0 := by
  unfold ofBits
  dsimp only
  rw [hiddenBit_eq]
  split
  · rename_i ones
    split
    · rename_i infinite
      exact iff_of_false (fun equal => nomatch equal) fun nan => nan.2 infinite
    · rename_i fraction
      exact iff_of_true rfl ⟨ones, fraction⟩
  · rename_i other
    split
    · exact iff_of_false (fun equal => nomatch equal) fun nan => other nan.1
    · exact iff_of_false (fun equal => nomatch equal) fun nan => other nan.1

section

open Float.Model (Format UnpackedFloat)
open Float.Model.UnpackedFloat

theorem isNaN_unpack (bits : BitVec 64) :
    (unpack Format.binary64 bits).isNaN = true ↔
      exponentField bits = -1#11 ∧ bits.toNat % 2 ^ 52 ≠ 0 := by
  have mantissa : @unpackMantissa Format.binary64 bits = 0#52 ↔ bits.toNat % 2 ^ 52 = 0 := by
    rw [← BitVec.toNat_inj]
    simp [unpackMantissa]
  unfold unpack
  dsimp only
  split
  · rename_i ones
    split
    · rename_i zero
      exact iff_of_false Bool.false_ne_true fun nan => nan.2 (mantissa.mp zero)
    · rename_i nonzero
      exact iff_of_true rfl ⟨ones, fun zero => nonzero (mantissa.mpr zero)⟩
  · rename_i other
    split
    · split <;> exact iff_of_false Bool.false_ne_true fun nan => other nan.1
    · exact iff_of_false Bool.false_ne_true fun nan => other nan.1

theorem ofFloat_eq_nan_iff (x : Float) : ofFloat x = .nan ↔ x.isNaN = true := by
  have own : x.isNaN = (unpack Format.binary64 x.toBits.toBitVec).isNaN := rfl
  rw [ofFloat, ofBits_eq_nan_iff, own, isNaN_unpack, ← BitVec.toNat_inj, exponentField_toNat]
  rfl

theorem isNaN_of_isFinite {x : Float} (finite : x.isFinite = true) : x.isNaN = false := by
  have own : x.isFinite = (unpack Format.binary64 x.toBits.toBitVec).isFinite := rfl
  have other : x.isNaN = (unpack Format.binary64 x.toBits.toBitVec).isNaN := rfl
  rw [own, isFinite_unpack] at finite
  rw [other, Bool.eq_false_iff, ne_eq, isNaN_unpack]
  exact fun nan => finite nan.1

end

end Binary

namespace Number

/-- A float that is no number. -/
def isNaN : Number → Bool
  | .int _ => false
  | .float x => x.isNaN

def value? (a : Number) : Option (WithBot (WithTop ℚ)) := a.exact.value?

theorem exists_value {a : Number} (number : a.isNaN = false) : ∃ v, a.value? = some v := by
  rw [← Option.ne_none_iff_exists', value?, ne_eq, Binary.value?_eq_none_iff]
  cases a with
  | int n => exact fun nan => nomatch nan
  | float x =>
      rw [exact, Binary.ofFloat_eq_nan_iff, Bool.not_eq_true]
      exact number

theorem compare?_of_values {a b : Number} {v w : WithBot (WithTop ℚ)} (left : a.value? = some v)
    (right : b.value? = some w) : a.compare? b = some (cmp v w) := by
  rw [value?] at left right
  rw [compare?, Binary.compare?_eq_cmp, left, right]
  rfl

theorem isLE_compare?_iff {a b : Number} {v w : WithBot (WithTop ℚ)} (left : a.value? = some v)
    (right : b.value? = some w) : ((a.compare? b).getD .eq).isLE = true ↔ v ≤ w := by
  rw [compare?_of_values left right, Option.getD_some, cmp_eq_compare, Ordering.isLE_iff_ne_gt]
  exact compare_le_iff_le

theorem compare?_swap (a b : Number) : b.compare? a = (a.compare? b).map Ordering.swap := by
  simp only [compare?, Binary.compare?_eq_cmp]
  cases a.exact.value? <;> cases b.exact.value? <;> simp [cmp_swap]

/-- Numbers are equal if they stand for the same point. -/
theorem equals_iff {a b : Number} :
    a.equals b = true ↔ ∃ v, a.value? = some v ∧ b.value? = some v := by
  rw [equals, beq_iff_eq, compare?, Binary.compare?_eq_cmp]
  simp only [value?, Option.bind_eq_some_iff, Option.map_eq_some_iff, cmp_eq_eq_iff]
  constructor
  · rintro ⟨v, left, w, right, rfl⟩
    exact ⟨v, left, right⟩
  · rintro ⟨v, left, right⟩
    exact ⟨v, left, v, right, rfl⟩

/-- A number is not infinite, and this is its value. -/
def StandsFor (a : Number) (q : ℚ) : Prop :=
  a.value? = some ((q : WithTop ℚ) : WithBot (WithTop ℚ))

theorem StandsFor.equals_iff {a b : Number} {q r : ℚ} (left : a.StandsFor q)
    (right : b.StandsFor r) : a.equals b = true ↔ q = r := by
  rw [Number.equals_iff, show a.value? = _ from left, show b.value? = _ from right]
  simp [eq_comm]

theorem equals_self {a : Number} (number : a.isNaN = false) : a.equals a = true := by
  obtain ⟨v, value⟩ := exists_value number
  exact equals_iff.mpr ⟨v, value, value⟩

theorem equals_comm (a b : Number) : a.equals b = b.equals a := by
  rw [Bool.eq_iff_iff, equals_iff, equals_iff]
  simp only [and_comm]

theorem equals_trans {a b c : Number} (left : a.equals b = true) (right : b.equals c = true) :
    a.equals c = true := by
  obtain ⟨v, first, second⟩ := equals_iff.mp left
  obtain ⟨w, second', third⟩ := equals_iff.mp right
  obtain rfl := Option.some_inj.mp (second.symm.trans second')
  exact equals_iff.mpr ⟨v, first, third⟩

end Number

end Formula
