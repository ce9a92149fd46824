import Formula.Context
import Formula.Proofs.Except
import Formula.Proofs.Number.Order
import Formula.Proofs.Record

/-!
The range of numbers, and the values all of whose numbers are in range. Negation keeps a number in
range, and so does a division of integers that comes out even.
-/

namespace Formula

namespace Number

/-- A float is finite, an integer has no more bits than results may have. -/
def InRange : Number → Prop
  | .int n => bitLength n ≤ maxBits
  | .float x => x.isFinite = true

instance (x : Number) : Decidable x.InRange :=
  match x with
  | .int n => inferInstanceAs (Decidable (bitLength n ≤ maxBits))
  | .float x => inferInstanceAs (Decidable (x.isFinite = true))

/-- A number in range passes the check as it is, and no other number passes. -/
theorem check_eq_ok_iff {x y : Number} : x.check = .ok y ↔ y = x ∧ x.InRange := by
  cases x with
  | int n =>
      rw [check]
      split
      · rename_i wide
        exact iff_of_false (fun passed => nomatch passed)
          fun narrow => absurd narrow.2 (Nat.not_le.mpr wide)
      · rename_i narrow
        have inRange : (int n).InRange := Nat.le_of_not_lt narrow
        rw [Except.ok.injEq, eq_comm, and_iff_left inRange]
  | float x =>
      rw [check]
      split
      · rename_i finite
        have inRange : (float x).InRange := finite
        rw [Except.ok.injEq, eq_comm, and_iff_left inRange]
      · rename_i other
        exact iff_of_false (fun passed => nomatch passed) fun finite => absurd finite.2 other

theorem check_returns (x : Number) : ReturnsOnly InRange x.check := by
  intro y passed
  obtain ⟨rfl, inRange⟩ := check_eq_ok_iff.mp passed
  exact inRange

theorem InRange.isNaN {x : Number} (inRange : x.InRange) : x.isNaN = false := by
  cases x with
  | int n => rfl
  | float x => exact Binary.isNaN_of_isFinite inRange

theorem InRange.check {x : Number} (inRange : x.InRange) : x.check = .ok x :=
  check_eq_ok_iff.mpr ⟨rfl, inRange⟩

theorem bitLength_le_of_natAbs_le {m n : Int} (smaller : m.natAbs ≤ n.natAbs) :
    bitLength m ≤ bitLength n := by
  unfold bitLength
  split
  · exact Nat.zero_le _
  · rename_i nonzero
    rw [if_neg (by omega)]
    have positive : n.natAbs ≠ 0 := by omega
    have power := Nat.le_trans (Nat.log2_self_le (n := m.natAbs) (by omega)) smaller
    exact Nat.add_le_add_right ((Nat.le_log2 positive).mpr power) 1

theorem bitLength_natCast_le {n width : Nat} (small : n < 2 ^ width) :
    bitLength n ≤ width := by
  unfold bitLength
  split
  · exact Nat.zero_le _
  · rename_i positive
    have nonzero : n ≠ 0 := fun zero => positive (congrArg Nat.cast zero)
    exact (Nat.log2_lt nonzero).mpr small

/-- A quotient that comes out even is no further from zero than what was divided. -/
theorem natAbs_fdiv_le {m n : Int} (even : m.fmod n = 0) : (m.fdiv n).natAbs ≤ m.natAbs := by
  by_cases zero : n = 0
  · rw [zero, Int.fdiv_zero]
    exact Nat.zero_le _
  · have product := Int.mul_fdiv_add_fmod m n
    rw [even, Int.add_zero] at product
    calc (m.fdiv n).natAbs
      _ ≤ n.natAbs * (m.fdiv n).natAbs := Nat.le_mul_of_pos_left _ (Int.natAbs_pos.mpr zero)
      _ = m.natAbs := by rw [← Int.natAbs_mul, product]

section

open Float.Model (Format UnpackedFloat)
open Float.Model.UnpackedFloat

theorem exponentField_packComponents (sign : Sign) (exponent : BitVec 11) (mantissa : BitVec 52) :
    Binary.exponentField (packComponents Format.binary64 sign exponent mantissa) = exponent :=
  unpackExponent_packComponents

theorem exponentField_pack_neg (x : UnpackedFloat) :
    Binary.exponentField (pack Format.binary64 (neg x)) =
      Binary.exponentField (pack Format.binary64 x) := by
  cases x with
  | notANumber => rfl
  | infinity sign =>
      exact (exponentField_packComponents _ _ _).trans (exponentField_packComponents _ _ _).symm
  | zero sign =>
      exact (exponentField_packComponents _ _ _).trans (exponentField_packComponents _ _ _).symm
  | finite sign mantissa exponent positive =>
      simp only [neg, pack]
      split
      · exact (exponentField_packComponents _ _ _).trans (exponentField_packComponents _ _ _).symm
      · split <;>
          exact (exponentField_packComponents _ _ _).trans
            (exponentField_packComponents _ _ _).symm

theorem isFinite_neg (x : Float) : (-x).isFinite = true ↔ x.isFinite = true := by
  have same : (-x).isFinite = (unpack Format.binary64 (pack Format.binary64
      (neg (unpack Format.binary64 x.toModel.toBits.toBitVec)))).isFinite := rfl
  have own : x.isFinite = (unpack Format.binary64 x.toModel.toBits.toBitVec).isFinite := rfl
  rw [same, own, Binary.isFinite_unpack, Binary.isFinite_unpack, exponentField_pack_neg, ne_eq,
    Binary.exponentField_pack_unpack]

end

theorem inRange_negate {x : Number} : x.negate.InRange ↔ x.InRange := by
  cases x with
  | int n =>
      have same : bitLength (-n) = bitLength n :=
        le_antisymm (bitLength_le_of_natAbs_le (Int.natAbs_neg n).le)
          (bitLength_le_of_natAbs_le (Int.natAbs_neg n).ge)
      rw [negate, InRange, InRange, same]
  | float x => exact isFinite_neg x

theorem InRange.negate {x : Number} (inRange : x.InRange) : x.negate.InRange :=
  inRange_negate.mpr inRange

/-! ### Results of arithmetic -/

theorem combine_returns {P : Number → Prop} {onInts : Int → Int → Except Fault Number}
    {onFloats : Float → Float → Except Fault Number} {a b : Number}
    (ints : ∀ m n, a = .int m → b = .int n → ReturnsOnly P (onInts m n))
    (floats : ∀ x y, ReturnsOnly P (onFloats x y)) : ReturnsOnly P (combine onInts onFloats a b) := by
  unfold combine
  split
  · exact ints _ _ rfl rfl
  · exact returnsOnly_bind _ fun x => returnsOnly_bind _ fun y => floats x y

theorem multiply_returns (a b : Number) : ReturnsOnly InRange (a.multiply b) := by
  refine combine_returns (fun m n _ _ => ?_) fun x y => check_returns _
  split
  · exact returnsOnly_error _
  · exact check_returns _

theorem power_returns (a b : Number) : ReturnsOnly InRange (a.power b) := by
  unfold power
  split
  · split
    · exact returnsOnly_error _
    · exact check_returns _
  · exact returnsOnly_bind _ fun x => returnsOnly_bind _ fun y =>
      returnsOnly_bind _ fun z => check_returns _

/-- What a division returns is looked at, unless it is a quotient of integers that comes out even. -/
theorem divide_returns (a b : Number) :
    ReturnsOnly
      (fun x => x.InRange ∨ ∃ m n, a = .int m ∧ b = .int n ∧ m.fmod n = 0 ∧ x = .int (m.fdiv n))
      (a.divide b) := by
  refine combine_returns ?_ fun x y => (check_returns _).imp fun _ => .inl
  rintro m n rfl rfl
  split
  · rename_i even
    exact returnsOnly_ok (.inr ⟨m, n, rfl, rfl, even, rfl⟩)
  · exact returnsOnly_bind _ fun x => (check_returns _).imp fun _ => .inl

theorem divide_inRange {a b : Number} (inRange : a.InRange) :
    ReturnsOnly InRange (a.divide b) := by
  refine (divide_returns a b).imp ?_
  rintro _ (checked | ⟨m, n, rfl, rfl, even, rfl⟩)
  · exact checked
  · exact Nat.le_trans (bitLength_le_of_natAbs_le (natAbs_fdiv_le even)) inRange

end Number

namespace Value

/-- A number is a value or lies inside it, at any depth. -/
inductive Holds (x : Number) : Value → Prop where
  | number : Holds x (.number x)
  | item {items : List Value} {v : Value} (member : v ∈ items) (inside : Holds x v) :
      Holds x (.array items)
  | field {fields : List (Text × Value)} {name : Text} {v : Value} (member : (name, v) ∈ fields)
      (inside : Holds x v) : Holds x (.object fields)

/-- Every number of a value is in range. -/
def InRange (v : Value) : Prop := ∀ x, Holds x v → x.InRange

@[simp] theorem inRange_number {x : Number} : (Value.number x).InRange ↔ x.InRange := by
  constructor
  · intro all
    exact all x .number
  · intro inRange y holds
    cases holds
    exact inRange

@[simp] theorem inRange_array {items : List Value} :
    (Value.array items).InRange ↔ ∀ v ∈ items, v.InRange := by
  constructor
  · intro all v member x holds
    exact all x (.item member holds)
  · intro each x holds
    cases holds with
    | item member inside => exact each _ member x inside

@[simp] theorem inRange_object {fields : List (Text × Value)} :
    (Value.object fields).InRange ↔ ∀ entry ∈ fields, entry.2.InRange := by
  constructor
  · intro all entry member x holds
    exact all x (.field member holds)
  · intro each x holds
    cases holds with
    | field member inside => exact each _ member x inside

@[simp] theorem inRange_null : Value.null.InRange := fun _ holds => nomatch holds

@[simp] theorem inRange_bool (b : Bool) : (Value.bool b).InRange := fun _ holds => nomatch holds

@[simp] theorem inRange_text (t : Text) : (Value.text t).InRange := fun _ holds => nomatch holds

@[simp] theorem inRange_date (s : Stamp) : (Value.date s).InRange := fun _ holds => nomatch holds

theorem check_number_iff {x : Number} {v : Value} :
    (Value.number x).check = .ok v ↔ v = .number x ∧ x.InRange := by
  rw [check, map_eq_ok]
  constructor
  · rintro ⟨y, passed, rfl⟩
    obtain ⟨rfl, inRange⟩ := Number.check_eq_ok_iff.mp passed
    exact ⟨rfl, inRange⟩
  · rintro ⟨rfl, inRange⟩
    exact ⟨x, inRange.check, rfl⟩

theorem check_self {v : Value} (inRange : ∀ x, v = .number x → x.InRange) : v.check = .ok v := by
  cases v with
  | number x => exact check_number_iff.mpr ⟨rfl, inRange x rfl⟩
  | _ => rfl

theorem inRange_getD {found : Option Value} (inRange : ∀ v, found = some v → v.InRange) :
    (found.getD .null).InRange := by
  cases found with
  | none => exact inRange_null
  | some v => exact inRange v rfl

theorem inRange_get? {κ : Type} [DecidableEq κ] {name : κ} {r : Record κ Value}
    (inRange : ∀ entry ∈ r, entry.2.InRange) : ((r.get? name).getD .null).InRange :=
  inRange_getD fun _ found => inRange _ (Record.mem_of_get? found)

end Value

/-- Every number that formulas can read from a context is in range. -/
structure Context.InRange (c : Context) : Prop where
  fields : ∀ entry ∈ c.fields, entry.2.InRange
  vars : ∀ entry ∈ c.vars, entry.2.InRange
  datasets : ∀ entry ∈ c.datasets, ∀ v ∈ entry.2, v.InRange
  user : ∀ entry ∈ c.user, entry.2.InRange

end Formula
