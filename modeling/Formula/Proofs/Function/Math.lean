import Formula.Function.Library
import Formula.Proofs.Function.Builtin
import Formula.Proofs.Json.Numbers
import Formula.Proofs.Number.Integer

/-!
What `ROUND` returns. Every number is rounded exactly, half away from zero. Where no decimal places
are asked for the result is an integer, which is refused if it is too wide for a result; elsewhere
it becomes a float, so that an integer stays what it is only if it fits a float.
-/

namespace Formula

/-! ### Rounding of numbers -/

/-- A rational is rounded half away from zero to a multiple of a unit. -/
structure IsRounded (unit q r : ℚ) : Prop where
  multiple : ∃ k : ℤ, r = k * unit
  near : |r - q| ≤ unit / 2
  away : |r - q| = unit / 2 → |q| < |r|

theorem isRounded_roundHalfAway (q : ℚ) (places : ℤ) :
    IsRounded (10 ^ (-places)) q (roundHalfAway q places) where
  multiple := exists_multiple_roundHalfAway q places
  near := roundHalfAway_near q places
  away := lt_roundHalfAway_of_middle

namespace Math

variable {c : Context} {x : Number} {v places : Int} {d : Decimal}

theorem isDecimal_of_inRange (narrow : (Number.int v).InRange) : (Number.int v).IsDecimal :=
  Json.digitCount_le_of_inRange narrow

theorem toInt_ofInt : (Decimal.ofInt v).toInt = v := by
  rw [← @Int.cast_inj ℚ, Decimal.toInt_eq (le_refl _), Number.value_ofInt]

theorem roundTo_int (decimal : (Number.int v).IsDecimal) (digits : Nat) :
    (Number.int v).roundTo digits = .ok (.ofInt v) := by
  have made : (Number.int v).toDecimal = .ok (.ofInt v) := if_neg (Nat.not_lt.mpr decimal)
  exact (bind_of_ok made).trans (if_pos (show -(digits : Int) ≤ 0 by omega))

theorem round_eq (rounded : x.roundTo places = .ok d) : round (.number x) (.int places) =
    if places ≤ 0 then .ok (.int d.toInt) else .ok (.float d.toFloat) := by
  have opened : round (.number x) (.int places) = (do
      let rounded ← x.roundTo places
      if places ≤ 0 then return .int rounded.toInt else return .float rounded.toFloat) := rfl
  rw [opened, bind_of_ok rounded]
  split <;> rfl

/-- A number that rounding gives is returned if it is in range, and refused elsewhere. -/
theorem call_round_eq_ok_iff {y : Number} {v : Value}
    (rounded : round (.number x) (.int places) = .ok (.number y)) :
    roundFunction.call c [.number x, .int places] = .ok v ↔ v = .number y ∧ y.InRange := by
  rw [Definition.call_eq_ok_iff]
  constructor
  · rintro ⟨w, returned, checked⟩
    obtain rfl := Except.ok.inj (rounded.symm.trans (mapError_eq_ok.mp returned))
    exact Value.check_number_iff.mp checked
  · exact fun inRange => ⟨_, mapError_eq_ok.mpr rounded, Value.check_number_iff.mpr inRange⟩

/-- The error of a call of `ROUND` that rounds to an integer too wide for a result. -/
def tooWide : Stop :=
  .failed (.runtime ⟨.call roundFunction.name .integerTooLarge, none, some roundFunction.name⟩)

/-- Where no decimal places are asked for, a call gives the rounded number as an integer if that is
in range, and fails otherwise. -/
theorem call_round_of_whole (rounded : x.roundTo places = .ok d) (whole : places ≤ 0)
    (c : Context) : roundFunction.call c [.number x, .int places] =
      if (Number.int d.toInt).InRange then .ok (.int d.toInt) else .error tooWide := by
  have returned := (round_eq rounded).trans (if_pos whole)
  split
  · next inRange => exact (call_round_eq_ok_iff returned).mpr ⟨rfl, inRange⟩
  · next wide =>
      have refused : (Number.int d.toInt).check = .error .integerTooLarge :=
        if_pos (Nat.lt_of_not_le wide)
      exact Definition.call_of_refused (mapError_eq_ok.mpr returned)
        (congrArg (Except.map Value.number) refused)

/-- Rounding to decimal places fails for no integer that can be written, for no finite float and for
no places. It gives the number that is written rounded half away from zero. Where no decimal places
are asked for that is an integer: a call of `ROUND` gives it if it is in range, and fails
otherwise. -/
theorem rounds_half_away (decimal : x.IsDecimal) :
    ∃ q, x.denoted? = some q ∧ (∀ n, x = .int n → q = n) ∧ ∀ places : Int,
      ∃ d, x.roundTo places = .ok d ∧
        d.value = SignType.sign q * ⌊|q| * 10 ^ places + 1 / 2⌋ / 10 ^ places ∧
        IsRounded (10 ^ (-places)) q d.value ∧
        ((∃ k : ℤ, q = k * 10 ^ (-places)) → d.value = q) ∧
        (|q| < 10 ^ (-places) / 2 → d.value = 0) ∧
        (∀ (y : Number) r e, y.IsDecimal → y.denoted? = some r → y.roundTo places = .ok e → q ≤ r →
          d.value ≤ e.value) ∧
        (places ≤ 0 → ∃ n : ℤ, n = d.value ∧ round (.number x) (.int places) = .ok (.int n) ∧
          ∀ c, roundFunction.call c [.number x, .int places] =
            if (Number.int n).InRange then .ok (.int n) else .error tooWide) := by
  obtain ⟨q, denoted, rounds⟩ := Number.roundTo_returns decimal
  refine ⟨q, denoted, ?_, fun places => ?_⟩
  · rintro n rfl
    exact Option.some_inj.mp (denoted.symm.trans (Number.denoted?_int decimal))
  obtain ⟨d, rounded, exponent, value⟩ := rounds places
  refine ⟨d, rounded, value, ?_⟩
  rw [value]
  refine ⟨isRounded_roundHalfAway q places, ?_, roundHalfAway_of_small, ?_, ?_⟩
  · rintro ⟨k, multiple⟩
    exact roundHalfAway_of_multiple multiple
  · intro y r e decimal' denoted' rounded' le
    obtain ⟨q', denoted'', rounds'⟩ := Number.roundTo_returns decimal'
    obtain ⟨d', rounded'', -, value'⟩ := rounds' places
    obtain rfl := Option.some_inj.mp (denoted'.symm.trans denoted'')
    obtain rfl := Except.ok.inj (rounded'.symm.trans rounded'')
    rw [value']
    exact roundHalfAway_mono le
  · intro whole
    refine ⟨d.toInt, ?_, (round_eq rounded).trans (if_pos whole), call_round_of_whole rounded whole⟩
    rw [Decimal.toInt_eq (by omega), value]

theorem rounds_half_away_carry :
    (Number.float 9.95).IsDecimal ∧ (Number.float 9.95).denoted? = some (199 / 20) ∧
      ∃ d, (Number.float 9.95).roundTo 1 = .ok d ∧ d.value = 10 := by
  have decimal : (Number.float 9.95).IsDecimal := by decide +kernel
  have bits : Binary.ofFloat 9.95 = .finite false 5601352036542054 (-49) := by decide +kernel
  have shortest : Decimal.shortestOf false 5601352036542054 (-49) = ⟨false, 995, -2⟩ := by
    decide +kernel
  have denoted : (Number.float 9.95).denoted? = some (199 / 20) := by
    rw [Number.denoted?_float bits, shortest]
    norm_num [Decimal.value, Binary.signed]
  obtain ⟨q, own, -, rounds⟩ := rounds_half_away decimal
  obtain rfl := Option.some_inj.mp (denoted.symm.trans own)
  obtain ⟨d, rounded, value, -⟩ := rounds 1
  refine ⟨decimal, denoted, d, rounded, value.trans ?_⟩
  norm_num

/-- An integer of 4001 digits is rounded to itself, but that is too wide for a result. -/
theorem wide_integer_refused :
    let c : Context := {
      clock := .ofMoment .universal (.atMidnight ⟨2024, 1, 15, by decide⟩ none) }
    (Number.int (10 ^ 4000)).IsDecimal ∧
      round (.int (10 ^ 4000)) (.int 0) = .ok (.int (10 ^ 4000)) ∧
      ∀ v, roundFunction.call c [.int (10 ^ 4000), .int 0] ≠ .ok v := by
  intro c
  have decimal : (Number.int (10 ^ 4000)).IsDecimal := by decide +kernel
  have wide : ¬ (Number.int (10 ^ 4000)).InRange := by decide +kernel
  have rounded := roundTo_int decimal 0
  have returned := round_eq rounded
  have refused := call_round_of_whole rounded (le_refl _) c
  rw [if_pos (by decide), toInt_ofInt] at returned
  rw [toInt_ofInt, if_neg wide] at refused
  exact ⟨decimal, returned, fun v some => nomatch refused.symm.trans some⟩

/-! ### Integers -/

/-- `ROUND` leaves an integer as it is where no decimal places are asked for. Elsewhere the integer
becomes the float next to it, if there is one, which equals the integer exactly if that fits a
float. -/
theorem round_integer (c : Context) (narrow : (Number.int v).InRange) (digits : Nat) :
    (digits = 0 → roundFunction.call c [.int v, .int digits] = .ok (.int v)) ∧
    (0 < digits →
      (Binary.BeyondFloats v → ∀ r, roundFunction.call c [.int v, .int digits] ≠ .ok r) ∧
      (¬ Binary.BeyondFloats v → ∃ x q,
        roundFunction.call c [.int v, .int digits] = .ok (.float x) ∧
          (Number.float x).StandsFor q ∧ |q - v| ≤ |(v : ℚ)| / 2 ^ 53 ∧
          ((Value.float x).equals (.int v) = true ↔
            ∃ m k : Nat, v.natAbs = m * 2 ^ k ∧ m < 2 ^ 53))) := by
  have returned := round_eq (roundTo_int (isDecimal_of_inRange narrow) digits)
  rw [Decimal.toFloat_ofInt] at returned
  constructor
  · rintro rfl
    rw [if_pos (by decide), toInt_ofInt] at returned
    exact (call_round_eq_ok_iff returned).mpr ⟨rfl, narrow⟩
  · intro some
    rw [if_neg (by omega)] at returned
    constructor
    · intro beyond r called
      obtain ⟨-, finite⟩ := (call_round_eq_ok_iff returned).mp called
      exact (Binary.isFinite_nearest_one _ _).mp finite beyond
    · intro within
      obtain ⟨x, q, found, finite, stands, near, same⟩ := Binary.nearest_returns within
      rw [found] at returned
      refine ⟨x, q, (call_round_eq_ok_iff returned).mpr ⟨rfl, finite⟩, stands, near, ?_⟩
      exact (stands.equals_iff (Binary.standsFor_int v)).trans same

theorem round_integer_power_of_two :
    let c : Context := {
      clock := .ofMoment .universal (.atMidnight ⟨2024, 1, 15, by decide⟩ none) }
    (Number.int (2 ^ 60)).InRange ∧ ¬ Binary.BeyondFloats (2 ^ 60) ∧
      ∃ x, roundFunction.call c [.int (2 ^ 60), .int 2] = .ok (.float x) ∧
        (Value.float x).equals (.int (2 ^ 60)) = true := by
  intro c
  have narrow : (Number.int (2 ^ 60)).InRange := by decide
  have within : ¬ Binary.BeyondFloats (2 ^ 60) := by
    unfold Binary.BeyondFloats
    decide +kernel
  obtain ⟨x, q, called, -, -, same⟩ := ((round_integer c narrow 2).2 (by decide)).2 within
  exact ⟨narrow, within, x, called, same.mpr ⟨1, 60, rfl, by decide⟩⟩

/-- An integer just too long for a float comes back as another number. -/
theorem rounded_integer_ne :
    let c : Context := {
      clock := .ofMoment .universal (.atMidnight ⟨2024, 1, 15, by decide⟩ none) }
    (Number.int 9007199254740993).InRange ∧
      ∃ r, roundFunction.call c [.int 9007199254740993, .int 1] = .ok r ∧
        r.equals (.int 9007199254740993) = false := by
  intro c
  have other : (roundFunction.call c [.int 9007199254740993, .int 1]).toOption.any
      (fun r => !r.equals (.int 9007199254740993)) = true := by
    decide +kernel
  obtain ⟨r, returned, apart⟩ := (Option.any_eq_true _ _).mp other
  exact ⟨by decide, r, toOption_eq_some.mp returned, (Bool.not_eq_true' _).mp apart⟩

end Math

end Formula
